import Rpn.Main
import Rpn.Proofs.Conversation
import Rpn.Proofs.Frame
import Rpn.Proofs.Gathering
import Rpn.Proofs.Postorder
import Rpn.Proofs.ReadBack
import Rpn.Proofs.Recovery
import Rpn.Proofs.ScriptRun
import Rpn.Proofs.Depth
import Rpn.Proofs.Movement
import Rpn.Proofs.Layout
import Rpn.Proofs.Echo
import Rpn.Proofs.Numerals
import Rpn.Proofs.Columns
import Rpn.Proofs.Operands
import Rpn.Proofs.ByteOrder
import Rpn.Proofs.Registration
import Rpn.Proofs.Edits
import Rpn.Proofs.LocationOrder
import Rpn.Proofs.Diagnostics
