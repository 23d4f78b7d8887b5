import CLink.EndToEnd.Response
import CLink.Master.LatestRequest

/-!
# The network

One master and a slave for every device of its configuration.  A request is broadcast, a response
goes to the master.  The network can lose and delay every datagram, and datagrams overtake each
other; it does not change, copy or make them.

* `RequestCopy`, `ResponseCopy`   the datagrams on their way, with a record of where they come from;
* `netStep`                       what can happen in the network;
* `NetStart`                      the start of all stations, and its runs;
* `InFlight`                      what is on its way has been sent;
* `NetStart.run_inv`              it holds in every run, and the master runs as it does on its own;
* `NetStart.run_answered`         the slave of a response, in the run.
-/

namespace CLink
open Loop Trace

/-- the copy of a request that is on its way to the slave of one device; `index` requests of the
group were sent before it -/
structure RequestCopy where
  g : Nat
  index : Nat
  slaveGroup : Nat
  slaveDevice : Nat
  payload : Datagram

/-- a response on its way to the master, with the request it answers and the slave that answered -/
structure ResponseCopy where
  g : Nat
  d : Nat
  payload : Datagram
  answers : Option RequestCopy
  slave : Cls

/-- `sent` counts the requests of every group -/
structure Network where
  master : Clm
  slaves : Nat → Nat → Cls
  requests : List RequestCopy
  responses : List ResponseCopy
  sent : Nat → Nat

/-- the request, as the socket of the slave gives it -/
def RequestCopy.received (cfg : Config) (p : RequestCopy) : Received :=
  { dg := p.payload, remoteIp := cfg.masterId, remotePort := clCciefbPort
    slaveIpAddr := ((cfg.hier.groups p.slaveGroup).slaveDevices p.slaveDevice).slaveId }

namespace Network

/-- a copy of a request of group `g` for the slave of every device, whatever its group -/
def copies (net : Network) (g : Nat) (payload : Datagram) : List RequestCopy :=
  (List.range net.master.numGroups).flatMap fun h =>
    (List.range (net.master.setting h).numSlaveDevices.toNat).map fun d =>
      { g := g, index := net.sent g, slaveGroup := h, slaveDevice := d, payload := payload }

/-- what the master sends -/
def emit (net : Network) : Output → Network
  | .sendRequest g _ _ _ payload =>
    { net with
      requests := net.requests ++ net.copies g payload
      sent := Function.update net.sent g (net.sent g + 1) }
  | _ => net

def masterStep (net : Network) (e : Event) : Network × List Output :=
  let t := clmStep net.master e
  (t.2.foldl emit { net with master := t.1 }, t.2)

/-- what a slave sends to the master -/
def reply (net : Network) (g d : Nat) (answers : Option RequestCopy) : ClsOutput → Option ResponseCopy
  | .sendResponse destIp _ payload =>
    if destIp = net.master.shared.config.masterId then
      some { g := g, d := d, payload := payload, answers := answers, slave := net.slaves g d }
    else none
  | _ => none

def loseRequest (net : Network) (i : Nat) : Network :=
  { net with requests := net.requests.eraseIdx i }

def loseResponse (net : Network) (i : Nat) : Network :=
  { net with responses := net.responses.eraseIdx i }

def setSlave (net : Network) (g d : Nat) (c : Cls) : Network :=
  { net with slaves := Function.update net.slaves g (Function.update (net.slaves g) d c) }

def slaveStep (net : Network) (g d : Nat) (answers : Option RequestCopy) (e : ClsEvent) : Network :=
  let t := clsStep (net.slaves g d) e
  { net.setSlave g d t.1 with
    responses := net.responses ++ t.2.filterMap (net.reply g d answers) }

end Network

/-- a datagram that is not from the network -/
def Event.isFrame : Event → Bool
  | frame _ _ _ _ _ => true
  | _ => false

def ClsEvent.isReception : ClsEvent → Bool
  | periodic _ (some _) => true
  | _ => false

inductive NetEvent where
  /-- a tick of the master or a call of its application -/
  | master (e : Event)
  /-- a tick of a slave without a datagram or a call of its application -/
  | slave (g d : Nat) (e : ClsEvent)
  /-- a slave starts again, perhaps with another configuration -/
  | restart (g d : Nat) (o : Options) (start : SlaveStart o)
  /-- the request at position `i` reaches its slave -/
  | deliverRequest (i : Nat) (now : UInt32)
  /-- the response at position `i` reaches the master -/
  | deliverResponse (i : Nat) (now : UInt32) (unixMs : Nat → UInt64)
  | loseRequest (i : Nat)
  | loseResponse (i : Nat)

def netStep (net : Network) : NetEvent → Network × List Output
  | .master e => if e.isFrame then (net, []) else net.masterStep e
  | .slave g d e => if e.isReception then (net, []) else (net.slaveStep g d none e, [])
  | .restart g d _ start => (net.setSlave g d start.init.cls, [])
  | .deliverRequest i now =>
    match net.requests[i]? with
    | none => (net, [])
    | some p =>
      ((net.loseRequest i).slaveStep p.slaveGroup p.slaveDevice (some p)
        (.periodic now (some (p.received net.master.shared.config))), [])
  | .deliverResponse i now unixMs =>
    match net.responses[i]? with
    | none => (net, [])
    | some q =>
      (net.loseResponse i).masterStep (.frame now unixMs q.payload
        ((net.master.setting q.g).slaveDevices q.d).slaveId clCciefbPort)
  | .loseRequest i => (net.loseRequest i, [])
  | .loseResponse i => (net.loseResponse i, [])

def network : Machine Network NetEvent Output := { step := netStep }

/-- the master and the slaves when they start -/
structure NetStart (o : Options) where
  master : MasterStart o
  slaveOptions : Nat → Nat → Options
  slaves : ∀ g d, SlaveStart (slaveOptions g d)

namespace NetStart
variable {o : Options} (st : NetStart o)

def init : Network :=
  { master := st.master.init.1, slaves := fun g d => (st.slaves g d).init.cls
    requests := [], responses := [], sent := fun _ => 0 }

/-- the network and the outputs of the master after the start and the events `es` -/
def run (es : List NetEvent) : Network × List Output :=
  ((network.run st.init es).1, st.master.init.2 ++ (network.run st.init es).2)

theorem run_concat (es : List NetEvent) (e : NetEvent) :
    st.run (es ++ [e])
      = ((netStep (st.run es).1 e).1, (st.run es).2 ++ (netStep (st.run es).1 e).2) := by
  simp only [run, Machine.run_append, Machine.run_cons, Machine.run_nil, List.append_nil,
    List.append_assoc]
  rfl

end NetStart

/-! ## what is on its way -/

theorem Network.emit_master (net : Network) (x : Output) : (net.emit x).master = net.master := by
  cases x <;> rfl

theorem Network.emit_responses (net : Network) (x : Output) :
    (net.emit x).responses = net.responses := by
  cases x <;> rfl

theorem Network.emits_master (net : Network) (out : List Output) :
    (out.foldl Network.emit net).master = net.master := by
  induction out generalizing net with
  | nil => rfl
  | cons x out ih => exact (ih (net.emit x)).trans (net.emit_master x)

theorem Network.emits_responses (net : Network) (out : List Output) :
    (out.foldl Network.emit net).responses = net.responses := by
  induction out generalizing net with
  | nil => rfl
  | cons x out ih => exact (ih (net.emit x)).trans (net.emit_responses x)

theorem Network.masterStep_responses (net : Network) (e : Event) :
    (net.masterStep e).1.responses = net.responses :=
  Network.emits_responses { net with master := (clmStep net.master e).1 } _

/-- a response that was not on its way before the step of a slave -/
theorem Network.slaveStep_responses {net : Network} {g d : Nat} {answers : Option RequestCopy}
    {e : ClsEvent} {q : ResponseCopy} (hq : q ∈ (net.slaveStep g d answers e).responses) :
    q ∈ net.responses ∨ (q.g = g ∧ q.d = d ∧ q.answers = answers ∧ q.slave = net.slaves g d)
      ∧ ∃ destPort, .sendResponse net.master.shared.config.masterId destPort q.payload
        ∈ (clsStep (net.slaves g d) e).2 := by
  rcases List.mem_append.mp hq with hq | hq
  · exact Or.inl hq
  obtain ⟨x, hx, hreply⟩ := List.mem_filterMap.mp hq
  cases x with
  | sendResponse destIp destPort payload =>
    simp only [Network.reply] at hreply
    split at hreply
    · rename_i hdest
      obtain rfl := Option.some.inj hreply
      rw [hdest] at hx
      exact Or.inr ⟨⟨rfl, rfl, rfl, rfl⟩, destPort, hx⟩
    · cases hreply
  | _ => cases hreply

/-- the request has been sent, to the slave of a device -/
structure RequestCopy.WasSent (cfg : Config) (p : RequestCopy) (hist : List Output) : Prop where
  group : p.slaveGroup < cfg.hier.numberOfGroups.toNat
  device : p.slaveDevice < (cfg.hier.groups p.slaveGroup).numSlaveDevices.toNat
  sent : ∃ start destIp destPort, (hist.filter (Output.isRequest p.g))[p.index]?
    = some (.sendRequest p.g start destIp destPort p.payload)

theorem RequestCopy.WasSent.append {cfg : Config} {p : RequestCopy} {hist : List Output}
    (h : p.WasSent cfg hist) (out : List Output) : p.WasSent cfg (hist ++ out) := by
  obtain ⟨start, destIp, destPort, hp⟩ := h.sent
  obtain ⟨hlt, _⟩ := List.getElem?_eq_some_iff.mp hp
  refine ⟨h.group, h.device, start, destIp, destPort, ?_⟩
  rw [List.filter_append, List.getElem?_append_left hlt]
  exact hp

/-- the slave of the response has sent it when it received the request -/
structure ResponseCopy.AnswerTo (cfg : Config) (q : ResponseCopy) (p : RequestCopy) : Prop where
  answers : q.answers = some p
  slave : p.slaveGroup = q.g ∧ p.slaveDevice = q.d
  frames : Frames q.slave
  sent : ∃ now, .sendResponse cfg.masterId clCciefbPort q.payload
    ∈ (clsStep q.slave (.periodic now (some (p.received cfg)))).2

structure InFlight (cfg : Config) (hist : List Output) (net : Network) : Prop where
  sent : ∀ g, net.sent g = requestCount g hist
  requests : ∀ p ∈ net.requests, p.WasSent cfg hist
  responses : ∀ q ∈ net.responses, ∃ p, q.AnswerTo cfg p ∧ p.WasSent cfg hist
  frames : ∀ g d, Frames (net.slaves g d)

section
variable {cfg : Config} {hist : List Output} {net : Network}

/-- one output more of the master -/
theorem InFlight.emit (h : InFlight cfg hist net) (hconfig : net.master.shared.config = cfg)
    (x : Output) :
    InFlight cfg (hist ++ [x]) (net.emit x) := by
  have hrequests : ∀ p ∈ net.requests, p.WasSent cfg (hist ++ [x]) :=
    fun p hp => (h.requests p hp).append _
  have hresponses : ∀ q ∈ net.responses, ∃ p, q.AnswerTo cfg p ∧ p.WasSent cfg (hist ++ [x]) := by
    intro q hq
    obtain ⟨p, hp, hsent⟩ := h.responses q hq
    exact ⟨p, hp, hsent.append _⟩
  have hcount : ∀ g, requestCount g (hist ++ [x])
      = requestCount g hist + if x.isRequest g then 1 else 0 := by
    intro g
    have happend : requestCount g (hist ++ [x]) = requestCount g hist + requestCount g [x] :=
      requestCount_append
    have hone : requestCount g [x] = if x.isRequest g then 1 else 0 := by
      unfold requestCount
      rw [List.filter_cons]
      cases x.isRequest g <;> rfl
    rw [happend, hone]
  cases x with
  | sendRequest g start destIp destPort payload =>
    refine ⟨?_, ?_, hresponses, h.frames⟩
    · intro k
      rw [hcount]
      by_cases hk : k = g
      · subst hk
        simp [Network.emit, Output.isRequest, h.sent]
      · rw [if_neg (by simp [Output.isRequest, Ne.symm hk])]
        exact (Function.update_of_ne hk ..).trans (h.sent k)
    · intro p hp
      rcases List.mem_append.mp hp with hp | hp
      · exact hrequests p hp
      · obtain ⟨k, hk, hp⟩ := List.mem_flatMap.mp hp
        obtain ⟨d, hd, rfl⟩ := List.mem_map.mp hp
        rw [List.mem_range, Clm.numGroups, hconfig] at hk
        rw [List.mem_range, Clm.setting, hconfig] at hd
        refine ⟨hk, hd, start, destIp, destPort, ?_⟩
        have hrequest : [Output.sendRequest g start destIp destPort payload].filter
            (Output.isRequest g) = [.sendRequest g start destIp destPort payload] :=
          List.filter_cons_of_pos (by simp [Output.isRequest])
        show ((hist ++ _).filter (Output.isRequest g))[net.sent g]? = some _
        rw [List.filter_append, h.sent, hrequest]
        exact List.getElem?_concat_length
  | _ =>
    refine ⟨?_, hrequests, hresponses, h.frames⟩
    intro k
    rw [hcount]
    exact h.sent k

theorem InFlight.emits (h : InFlight cfg hist net) (hconfig : net.master.shared.config = cfg)
    (out : List Output) :
    InFlight cfg (hist ++ out) (out.foldl Network.emit net) := by
  induction out generalizing hist net with
  | nil =>
    rw [List.append_nil]
    exact h
  | cons x out ih =>
    rw [List.append_cons]
    exact ih (h.emit hconfig x) ((congrArg (·.shared.config) (net.emit_master x)).trans hconfig)

theorem InFlight.loseRequest (h : InFlight cfg hist net) (i : Nat) :
    InFlight cfg hist (net.loseRequest i) :=
  ⟨h.sent, fun p hp => h.requests p (List.mem_of_mem_eraseIdx hp), h.responses, h.frames⟩

theorem InFlight.loseResponse (h : InFlight cfg hist net) (i : Nat) :
    InFlight cfg hist (net.loseResponse i) :=
  ⟨h.sent, h.requests, fun q hq => h.responses q (List.mem_of_mem_eraseIdx hq), h.frames⟩

theorem InFlight.setSlave (h : InFlight cfg hist net) {g d : Nat} {c : Cls} (hc : Frames c)
    (k j : Nat) : Frames ((net.setSlave g d c).slaves k j) := by
  show Frames (Function.update net.slaves g (Function.update (net.slaves g) d c) k j)
  by_cases hk : k = g
  · subst hk
    rw [Function.update_self]
    by_cases hj : j = d
    · subst hj
      rw [Function.update_self]
      exact hc
    · rw [Function.update_of_ne hj]
      exact h.frames k j
  · rw [Function.update_of_ne hk]
    exact h.frames k j

/-- one step of a slave: what it answers, it answers now -/
theorem InFlight.slaveStep (h : InFlight cfg hist net) (hconfig : net.master.shared.config = cfg)
    {g d : Nat} {answers : Option RequestCopy} {e : ClsEvent}
    (hanswers : ∀ now v, e = .periodic now (some v) → ∃ p, answers = some p ∧ v = p.received cfg
      ∧ (p.slaveGroup = g ∧ p.slaveDevice = d) ∧ p.WasSent cfg hist) :
    InFlight cfg hist (net.slaveStep g d answers e) := by
  refine ⟨h.sent, h.requests, ?_, ?_⟩
  · intro q hq
    rcases Network.slaveStep_responses hq with hq | ⟨⟨rfl, rfl, hans, hslave⟩, destPort, hx⟩
    · exact h.responses q hq
    · rw [hconfig] at hx
      obtain ⟨now, v, r, includeData, endCode, rfl, _, _, heq⟩ :=
        clsStep_sends (h.frames q.g q.d) hx rfl
      obtain ⟨p, rfl, rfl, hdest, hsent⟩ := hanswers now v rfl
      have hport : destPort = clCciefbPort := (ClsOutput.sendResponse.inj heq).2.1
      rw [hport, ← hslave] at hx
      exact ⟨p, ⟨hans, hdest, hslave ▸ h.frames q.g q.d, now, hx⟩, hsent⟩
  · exact h.setSlave (clsStep_frames (h.frames g d) e)

end

/-! ## runs -/

namespace NetStart
variable {o : Options} (st : NetStart o)

/-- the master runs on its own, and what is on its way has been sent -/
structure Inv (hist : List Output) (net : Network) : Prop where
  master : ∃ ems, st.master.run ems = (net.master, hist)
  flight : InFlight st.master.vc.cfg hist net

section
variable {st} {hist : List Output} {net : Network}

theorem Inv.config (h : st.Inv hist net) : net.master.shared.config = st.master.vc.cfg := by
  obtain ⟨ems, hems⟩ := h.master
  have hconfig := (st.master.run_config ems).1
  rwa [hems] at hconfig

theorem Inv.masterStep (h : st.Inv hist net) (e : Event) :
    st.Inv (hist ++ (net.masterStep e).2) (net.masterStep e).1 := by
  obtain ⟨ems, hems⟩ := h.master
  refine ⟨⟨ems ++ [e], ?_⟩, ?_⟩
  · rw [st.master.run_concat, hems]
    exact Prod.ext (Network.emits_master { net with master := (clmStep net.master e).1 } _).symm rfl
  · have hflight : InFlight st.master.vc.cfg hist { net with master := (clmStep net.master e).1 } :=
      ⟨h.flight.sent, h.flight.requests, h.flight.responses, h.flight.frames⟩
    have hconfig := (st.master.run_config (ems ++ [e])).1
    rw [st.master.run_concat, hems] at hconfig
    exact hflight.emits hconfig _

theorem Inv.loseResponse (h : st.Inv hist net) (i : Nat) : st.Inv hist (net.loseResponse i) :=
  ⟨h.master, h.flight.loseResponse i⟩

theorem Inv.step (h : st.Inv hist net) (e : NetEvent) :
    st.Inv (hist ++ (netStep net e).2) (netStep net e).1 := by
  have hstays {net' : Network} (hmaster : net'.master = net.master)
      (hflight : InFlight st.master.vc.cfg hist net') : st.Inv (hist ++ []) net' := by
    rw [List.append_nil]
    exact ⟨hmaster ▸ h.master, hflight⟩
  cases e with
  | master e =>
    simp only [netStep]
    split
    · exact hstays rfl h.flight
    · exact h.masterStep e
  | slave g d e =>
    simp only [netStep]
    split
    · exact hstays rfl h.flight
    · rename_i he
      refine hstays rfl (h.flight.slaveStep h.config ?_)
      rintro now v rfl
      exact absurd rfl he
  | restart g d o start =>
    have hframes : Frames start.init.cls := start.run_frames []
    exact hstays rfl ⟨h.flight.sent, h.flight.requests, h.flight.responses,
      h.flight.setSlave hframes⟩
  | deliverRequest i now =>
    simp only [netStep]
    split
    · exact hstays rfl h.flight
    · rename_i p hp
      have hmem : p ∈ net.requests := List.mem_of_getElem? hp
      refine hstays rfl ((h.flight.loseRequest i).slaveStep h.config ?_)
      intro now' v heq
      obtain ⟨-, hv⟩ := ClsEvent.periodic.inj heq
      obtain rfl := Option.some.inj hv
      exact ⟨p, rfl, congrArg p.received h.config, ⟨rfl, rfl⟩, h.flight.requests p hmem⟩
  | deliverResponse i now unixMs =>
    simp only [netStep]
    split
    · exact hstays rfl h.flight
    · exact (h.loseResponse i).masterStep _
  | loseRequest i =>
    exact hstays rfl (h.flight.loseRequest i)
  | loseResponse i =>
    exact hstays rfl (h.flight.loseResponse i)

end

theorem init_inv : st.Inv st.master.init.2 st.init := by
  refine ⟨⟨[], st.master.run_nil⟩, ?_, fun p hp => absurd hp List.not_mem_nil,
    fun q hq => absurd hq List.not_mem_nil, fun g d => (st.slaves g d).run_frames []⟩
  intro g
  have hsilent : ∀ x ∈ st.master.init.2, x.isRequest g = false := by
    intro x hx
    have hown := st.master.init_spec.out x hx
    cases x with
    | sendRequest _ _ _ _ _ => cases hown
    | _ => rfl
  exact (congrArg List.length (Numbered.filter_silent hsilent [])).symm

theorem run_inv (es : List NetEvent) : st.Inv (st.run es).2 (st.run es).1 := by
  induction es using List.reverseRecOn with
  | nil =>
    show st.Inv (st.master.init.2 ++ []) st.init
    rw [List.append_nil]
    exact st.init_inv
  | append_singleton es e ih =>
    rw [st.run_concat]
    exact ih.step e

/-- every response on its way was sent when its slave received a request -/
theorem run_answered (es : List NetEvent) :
    ∀ q ∈ (st.run es).1.responses, ∃ pre j now post p, es = pre ++ .deliverRequest j now :: post
      ∧ (st.run pre).1.requests[j]? = some p ∧ q.answers = some p
      ∧ q.slave = (st.run pre).1.slaves q.g q.d := by
  induction es using List.reverseRecOn with
  | nil => exact fun q hq => absurd hq List.not_mem_nil
  | append_singleton es e ih =>
    intro q hq
    rw [st.run_concat] at hq
    have hearlier (hq : q ∈ (st.run es).1.responses) : ∃ pre j now post p,
        es ++ [e] = pre ++ .deliverRequest j now :: post
          ∧ (st.run pre).1.requests[j]? = some p ∧ q.answers = some p
          ∧ q.slave = (st.run pre).1.slaves q.g q.d := by
      obtain ⟨pre, j, now, post, p, rfl, hp⟩ := ih q hq
      exact ⟨pre, j, now, post ++ [e], p, by rw [List.append_assoc, List.cons_append], hp⟩
    cases e with
    | master e =>
      simp only [netStep] at hq
      split at hq
      · exact hearlier hq
      · rw [Network.masterStep_responses] at hq
        exact hearlier hq
    | slave g d e =>
      simp only [netStep] at hq
      split at hq
      · exact hearlier hq
      · rename_i he
        rcases Network.slaveStep_responses hq with hq | ⟨_, destPort, hx⟩
        · exact hearlier hq
        · obtain ⟨now, v, _, _, _, rfl, _⟩ :=
            clsStep_sends ((st.run_inv es).flight.frames g d) hx rfl
          exact absurd rfl he
    | deliverRequest i now =>
      simp only [netStep] at hq
      split at hq
      · exact hearlier hq
      · rename_i p hp
        rcases Network.slaveStep_responses hq with hq | ⟨⟨hg, hd, hans, hslave⟩, _⟩
        · exact hearlier hq
        · rw [← hg, ← hd] at hslave
          exact ⟨es, i, now, [], p, rfl, hp, hans, hslave⟩
    | deliverResponse i now unixMs =>
      simp only [netStep] at hq
      split at hq
      · exact hearlier hq
      · rw [Network.masterStep_responses] at hq
        exact hearlier (List.mem_of_mem_eraseIdx hq)
    | restart => exact hearlier hq
    | loseRequest i => exact hearlier hq
    | loseResponse i => exact hearlier (List.mem_of_mem_eraseIdx hq)

end NetStart

end CLink
