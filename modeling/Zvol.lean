import Zvol.Basic
import Zvol.OpenClose.State
import Zvol.OpenClose.Step
import Zvol.OpenClose.Discipline
import Zvol.OpenClose.Accounting
import Zvol.OpenClose.Invariant
import Zvol.OpenClose.Properties
import Zvol.Zilog
import Zvol.Io.Trace
import Zvol.Io.Paths
import Zvol.Io.Locking
import Zvol.Io.RoundTrip
import Zvol.Io.Chunks
import Zvol.Io.Transfer
import Zvol.Io.Sched
import Zvol.Io.Properties
import Zvol.Balance
import Zvol.Minor.Create
import Zvol.Minor.Registry
import Zvol.Minor.Node
import Zvol.LockOrder
