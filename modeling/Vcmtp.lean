import Vcmtp.Basic
import Vcmtp.SenderMetadata
import Vcmtp.SendData
import Vcmtp.Retransmit
import Vcmtp.Bop
import Vcmtp.RetxThreads
import Vcmtp.Sender
import Vcmtp.SendProduct
import Vcmtp.System
import Vcmtp.Notify
import Vcmtp.Aging
import Vcmtp.Requests
import Vcmtp.Table
import Vcmtp.Connections
import Vcmtp.Refinement
