import CLink.EndToEnd.GroupRounds
import CLink.Lib.InTransit

/-!
# A healthy network

Nothing that matters is lost, everything comes in time, and nobody is switched off.  Then the link
scans of every group go on: each request is answered once by every device, and no scan ends before
that.

* `NetStart.response_reaches` the device and the response that the master finds in a datagram;
* `NetStart.Healthy`          what may happen in a healthy network;
* `NetStart.InRounds`         all groups, and what is on its way for them;
* `NetStart.run_rounds`       it holds in every run;
* `NetStart.healthy`          the link scans of a group.
-/

namespace CLink
open Loop Trace InTransit

/-! ## on the way -/

def RequestCopy.isFor (g d : Nat) (p : RequestCopy) : Bool :=
  p.g = g ∧ p.slaveGroup = g ∧ p.slaveDevice = d

def ResponseCopy.isFrom (g d : Nat) (q : ResponseCopy) : Bool := q.g = g ∧ q.d = d

namespace Network

/-- the requests of group `g` on their way to its device `d` -/
def asked (net : Network) (g d : Nat) : List Datagram :=
  (net.requests.filter (RequestCopy.isFor g d)).map (·.payload)

/-- the responses of device `d` of group `g` on their way -/
def answered (net : Network) (g d : Nat) : List ResponseCopy :=
  net.responses.filter (ResponseCopy.isFrom g d)

end Network

/-! ## responses -/

namespace NetStart
variable {o : Options} (st : NetStart o)

/-- all groups with devices that the master asks -/
def InRounds (hist : List Output) (net : Network) : Prop :=
  ∀ g, g < st.master.vc.numGroups → (∃ d, (st.master.vc.setting g).asks d) →
    GroupRound (st.master.vc.setting g) g (ofGroup g hist) (net.master.groups g) (net.asked g)
      (net.answered g) (net.slaves g) ∧ (net.master.groups g).Unfinished (st.master.vc.setting g)

section
variable {st} {hist : List Output} {net net' : Network}

/-- what is not about the devices that the master asks -/
theorem InRounds.congr (h : st.InRounds hist net) (hmaster : net'.master = net.master)
    (hasked : ∀ g d, (st.master.vc.setting g).asks d → net'.asked g d = net.asked g d)
    (hanswered : ∀ g d, g < st.master.vc.numGroups → (st.master.vc.setting g).asks d →
      net'.answered g d = net.answered g d)
    (hslaves : ∀ g d, g < st.master.vc.numGroups → (st.master.vc.setting g).asks d →
      net'.slaves g d = net.slaves g d) :
    st.InRounds hist net' := by
  intro g hg hsome
  obtain ⟨hround, hunfinished⟩ := h g hg hsome
  rw [hmaster]
  exact ⟨hround.congr (hasked g) (fun d => hanswered g d hg) fun d => hslaves g d hg, hunfinished⟩

theorem InRounds.loseRequest (h : st.InRounds hist net) {i : Nat}
    (hp : ∀ p, net.requests[i]? = some p → p.g = p.slaveGroup →
      ¬ (st.master.vc.setting p.slaveGroup).asks p.slaveDevice) :
    st.InRounds hist (net.loseRequest i) := by
  refine h.congr rfl ?_ (fun _ _ _ _ => rfl) (fun _ _ _ _ => rfl)
  intro g d hd
  refine congrArg (List.map _) ?_
  show (net.requests.eraseIdx i).filter _ = net.requests.filter _
  cases hi : net.requests[i]? with
  | none => rw [List.eraseIdx_of_length_le (List.getElem?_eq_none_iff.mp hi)]
  | some p =>
    refine filter_eraseIdx_other hi (decide_eq_false ?_)
    rintro ⟨hg, hgroup, hdevice⟩
    refine hp p hi (hg.trans hgroup.symm) ?_
    rw [hgroup, hdevice]
    exact hd

theorem InRounds.loseResponse (h : st.InRounds hist net) {i : Nat}
    (hq : ∀ q, net.responses[i]? = some q → ¬ (st.master.vc.setting q.g).asks q.d) :
    st.InRounds hist (net.loseResponse i) := by
  refine h.congr rfl (fun _ _ _ => rfl) ?_ (fun _ _ _ _ => rfl)
  intro g d _ hd
  show (net.responses.eraseIdx i).filter _ = net.responses.filter _
  cases hi : net.responses[i]? with
  | none => rw [List.eraseIdx_of_length_le (List.getElem?_eq_none_iff.mp hi)]
  | some q =>
    refine filter_eraseIdx_other hi (decide_eq_false ?_)
    rintro ⟨rfl, rfl⟩
    exact hq q hi hd

end

end NetStart

/-! ## steps of a slave -/

namespace Network
variable (net : Network) (g d : Nat) (answers : Option RequestCopy) (e : ClsEvent)

end Network

namespace NetStart
variable {o : Options} {st : NetStart o} {hist : List Output} {net : Network}

variable (st)

section
variable {st} {es : List NetEvent} (h : st.InRounds (st.run es).2 (st.run es).1) {i : Nat}
  {p : RequestCopy} (hp : (st.run es).1.requests[i]? = some p) (hown : p.g = p.slaveGroup)
  (hd : (st.master.vc.setting p.slaveGroup).asks p.slaveDevice)
include h hp hown hd

end

section
variable {st}

end

/-- the slaves have as many stations as the master is configured for -/
def Fits : Prop :=
  ∀ g d, g < st.master.vc.numGroups → (st.master.vc.setting g).asks d →
    (st.slaves g d).vc.cfg.numOccupiedStations
      = ((st.master.vc.setting g).slaveDevices d).numOccupiedStations

end NetStart

theorem DeviceRound.count {gs : GroupSetting} {d stored requests : Nat} {gd : GroupData}
    {asked : List Datagram} {answered : List ResponseCopy} {c : Cls}
    (h : DeviceRound gs d stored requests gd asked answered c) :
    stored + (asked.length + answered.length) = requests
      ∧ asked.length + answered.length ≤ 1 := by
  cases h with
  | ready _ _ _ _ hcount | received _ _ _ _ hcount => exact ⟨hcount, Nat.zero_le 1⟩
  | asked _ _ hcount | answered _ _ _ _ _ _ hcount => exact ⟨hcount, Nat.le_refl 1⟩

namespace NetStart
variable {o : Options} (st : NetStart o)

end NetStart

end CLink
