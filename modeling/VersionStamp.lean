import VersionStamp.Store.Memory
import VersionStamp.Tree
import VersionStamp.Program
import VersionStamp.Main
import VersionStamp.Proofs.Utf8
import VersionStamp.Proofs.Decimal
import VersionStamp.Proofs.Positional
import VersionStamp.Proofs.Bump
import VersionStamp.Proofs.Locality
import VersionStamp.Proofs.Counter
import VersionStamp.Proofs.Store
import VersionStamp.Proofs.Session
import VersionStamp.Proofs.Writer
import VersionStamp.Proofs.Program
import VersionStamp.Proofs.Independence
import VersionStamp.Proofs.ProfileOption
import VersionStamp.Proofs.Failure
import VersionStamp.Proofs.Disk
