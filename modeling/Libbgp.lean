import Libbgp.Wire
import Libbgp.EraseLoop
import Libbgp.PathAttrib
import Libbgp.PathAttribParse
import Libbgp.PathAttribWrite
import Libbgp.UpdateMessage.Attribs
import Libbgp.UpdateMessage.TypeCodes
import Libbgp.UpdateMessage.Frame
import Libbgp.UpdateMessage.WellTyped
import Libbgp.UpdateMessage.AsPathRoundTrip
import Libbgp.UpdateMessage.PrependDowngrade
import Libbgp.UpdateMessage.Idempotence
import Libbgp.UpdateMessage.Parse
import Libbgp.UpdateMessage.Write
import Libbgp.UpdateMessage.Layout
import Libbgp.UpdateMessage.WriteCount
import Libbgp.Rib6.Basic
import Libbgp.Rib6.Invariants
import Libbgp.Rib6.Batch
import Libbgp.Rib6.Lookup
import Libbgp.Rib6.Contracts
import Libbgp.Rib6.Laws
import Libbgp.Rib6.Keys
