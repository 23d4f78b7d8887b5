import CLink.Common.File
import CLink.Master.SentFrames
import CLink.Master.StepOutputs

/-!
# The parameter number

`clm_master_init` loads the parameter number, increases it and saves it.  A session is a call of
`clm_master_init` and what happens to the master afterwards; the files of the platform go from one
session to the next.

* `clmMasterInit`              the start of the master, with the answers of the platform;
* `parameterFile`              the outputs as they are saved;
* `sessionStep_cases`          a session that fails to start leaves the file alone;
* `parameterNumbers`           the numbers of the sessions follow one after the other.
-/

namespace CLink
open Bytes Loop Trace

/-! ## requests -/

def requestParameterNo (dg : Datagram) : UInt16 :=
  (ReqFullHeaders.ofBuffer dg.byte).cyclicDataHeader.parameterNo

namespace MasterStart
variable {o : Options} (st : MasterStart o)

/-- every request carries the number of the start -/
theorem sendRequest_parameterNo {es : List Event} {g : Nat} {start : GroupData} {destIp : IpAddr}
    {destPort : UInt16} {dg : Datagram}
    (hmem : .sendRequest g start destIp destPort dg ∈ (st.run es).2) :
    requestParameterNo dg = st.parameterNo := by
  refine st.run_request (A := fun _ _ _ => True) (I := fun _ => True)
    (P := fun _ dg => requestParameterNo dg = st.parameterNo)
    (fun _ _ => trivial) (fun _ _ _ _ _ _ => trivial) ?_
    (Machine.Steps.of_all master (fun _ _ _ _ _ => trivial) _ _) hmem
  intro now gd gd' hinv _ hs hst
  have hinv' := groupInv_linkscanStarted (st.vc.group (st.mem_ofGroup rfl hmem).1) hinv hs hst
  obtain ⟨frameSequenceNo, clockInfo, unitInfo, state, hheaders⟩ := hinv'.headers
  rw [requestParameterNo, RequestFrame.fullHeaders_datagram hinv'.layout, hheaders]
  rfl

end MasterStart

/-! ## saved numbers -/

def Output.savedNo : Output → Option UInt16
  | saveParameterNo n => some n
  | _ => none

/-- no step saves a number -/
theorem savedNo_rule : OutputRule (fun x => x.savedNo = none) := by
  refine ⟨?_, fun _ => rfl, fun _ _ _ _ => rfl⟩
  intro x g hown
  cases x with
  | saveParameterNo => cases hown
  | _ => rfl

namespace MasterStart
variable {o : Options} (st : MasterStart o)

/-- `clm_iefb_init` saves the number once -/
theorem init_savedNo : ∃ a b, st.init.2 = a ++ .saveParameterNo st.parameterNo :: b
    ∧ (∀ x ∈ a, x.savedNo = none) ∧ ∀ x ∈ b, x.savedNo = none := by
  have hno : st.startup.1.shared.parameterNo + 1 = st.parameterNo := by
    rw [st.startup_spec.1.parameterNo]
    rfl
  have hinit := congrArg Prod.snd st.init_eq
  unfold clmIefbHandleNewConfig at hinit
  dsimp only at hinit
  rw [hno] at hinit
  exact ⟨_, _, hinit, savedNo_rule.event _ _ _ _, savedNo_rule.event _ _ _ _⟩

/-- and the steps never do -/
theorem steps_savedNo (es : List Event) : ∀ x ∈ (master.run st.init.1 es).2, x.savedNo = none :=
  master.run_inv (c := fun _ _ => True) (I := fun hist _ => ∀ x ∈ hist, x.savedNo = none)
    (fun _ _ _ hhist _ => List.forall_mem_append.mpr
      ⟨hhist, savedNo_rule.step fun _ _ _ _ _ _ _ => rfl⟩)
    [] (List.forall_mem_nil _) (Machine.Steps.of_all master (fun _ _ => trivial) _ es)

end MasterStart

/-! ## the start of the master -/

abbrev clmDefaultParameterNo : UInt16 := 0

/-- the cleared `clm_t` with its configuration -/
def ClmShared.cleared (cfg : Config) : ClmShared :=
  { config := cfg, iefbBroadcastIp := 0, latestConflictingMasterIp := 0, masterState := .down
    parameterNo := 0, masterLocalUnitInfo := 0, arbitrationTimer := .zero
    errorlimiter := ⟨.zero, 0, 0, 0, 0⟩ }

/-- what the platform answers during `clm_master_init` -/
structure InitAnswers where
  clalInit : Bool
  /-- from `cl_eth_get_network_settings`, which may fail -/
  masterNetmask : Option IpAddr
  cciefbSocket : Int
  cciefbArbitrationSocket : Int
  slmpInit : Bool

section
variable {σ : Type} (fs : FileSystem σ) (fo : FileOptions) (e : Endian) (directory : List UInt8)

/-- the number in the file, or its default -/
def loadParameterNo (files : σ) : UInt16 :=
  match clFileLoad fs fo e files (some directory) clmFilenameParamNo 2 with
  | some object => e.raw16 (bufferOf object) 0
  | none => clmDefaultParameterNo

def saveParameterNo (files : σ) (parameterNo : UInt16) : Int × σ :=
  clFileSaveIfModified fs fo e files (some directory) clmFilenameParamNo (field16 e parameterNo)

/-- outputs as they change the file, with the return values of `cl_file_save_if_modified` -/
def parameterFile : Machine σ Output Int where
  step files x :=
    match x.savedNo with
    | some n => ((saveParameterNo fs fo e directory files n).2,
        [(saveParameterNo fs fo e directory files n).1])
    | none => (files, [])

/-- the return value of `clm_master_init`, the files, what was saved, and the master with its outputs
if `clm_iefb_init` was successful -/
structure MasterInit (σ : Type) where
  ret : Int
  files : σ
  saves : List Int
  started : Option (Clm × List Output)

def clmMasterInit (o : Options) (files : σ) (cfg : Config) (answers : InitAnswers) (now : UInt32) :
    MasterInit σ :=
  let failed : MasterInit σ := { ret := -1, files := files, saves := [], started := none }
  if answers.clalInit = false then failed
  else if clmValidateConfig o cfg = false then failed
  else
    let clm := { ClmShared.cleared cfg with
      parameterNo := loadParameterNo fs fo e directory files }
    match answers.masterNetmask with
    | none => failed
    | some masterNetmask =>
      let clm := { clm with
        iefbBroadcastIp := clUtilCalcBroadcastAddress masterNetmask cfg.masterId }
      if clmValidateConfigDuplicates cfg = false then failed
      else
        match clmIefbInit clm now answers.cciefbSocket answers.cciefbArbitrationSocket with
        | none => failed
        | some (c, out) =>
          let saved := (parameterFile fs fo e directory).run files out
          { ret := if answers.slmpInit then 0 else -1, files := saved.1, saves := saved.2
            started := some (c, out) }

/-! ## sessions -/

/-- a call of `clm_master_init`, and the events after it -/
structure Session where
  cfg : Config
  answers : InitAnswers
  now : UInt32
  events : List Event

structure SessionLog where
  /-- `clm->parameter_no` -/
  parameterNo : UInt16
  out : List Output
  saves : List Int

/-- the events reach a master whose initialisation was successful -/
def sessionStep (o : Options) (files : σ) (session : Session) : σ × List SessionLog :=
  let init := clmMasterInit fs fo e directory o files session.cfg session.answers session.now
  match init.started with
  | none => (init.files, [])
  | some (c, out) =>
    let run := if init.ret = 0 then master.run c session.events else (c, [])
    let saved := (parameterFile fs fo e directory).run init.files run.2
    (saved.1, [{ parameterNo := c.shared.parameterNo, out := out ++ run.2
                 saves := init.saves ++ saved.2 }])

def sessions (o : Options) : Machine σ Session SessionLog where
  step := sessionStep fs fo e directory o

variable {fs fo e directory} {files : σ}

theorem parameterFile_silent {out : List Output} (h : ∀ x ∈ out, x.savedNo = none) :
    (parameterFile fs fo e directory).run files out = (files, []) := by
  induction out generalizing files with
  | nil => rfl
  | cons x out ih =>
    have hx : (parameterFile fs fo e directory).step files x = (files, []) := by
      show (match x.savedNo with
        | some n => _
        | none => _) = _
      rw [h x List.mem_cons_self]
    rw [Machine.run_cons, hx, ih fun y hy => h y (List.mem_cons_of_mem x hy)]
    rfl

theorem parameterFile_init {o : Options} (st : MasterStart o) :
    (parameterFile fs fo e directory).run files st.init.2
      = ((saveParameterNo fs fo e directory files st.parameterNo).2,
        [(saveParameterNo fs fo e directory files st.parameterNo).1]) := by
  obtain ⟨a, b, hinit, ha, hb⟩ := st.init_savedNo
  rw [hinit, Machine.run_append, parameterFile_silent ha, Machine.run_cons, parameterFile_silent hb]
  rfl

/-- the initialisation fails before it has saved a number, or `clm_iefb_init` is successful -/
theorem clmMasterInit_cases (o : Options) (cfg : Config) (answers : InitAnswers) (now : UInt32) :
    clmMasterInit fs fo e directory o files cfg answers now
        = { ret := -1, files := files, saves := [], started := none }
      ∨ ∃ (st : MasterStart o) (ret : Int),
        st.shared.parameterNo = loadParameterNo fs fo e directory files
        ∧ clmMasterInit fs fo e directory o files cfg answers now
          = { ret := ret
              files := (saveParameterNo fs fo e directory files st.parameterNo).2
              saves := [(saveParameterNo fs fo e directory files st.parameterNo).1]
              started := some st.init } := by
  unfold clmMasterInit
  dsimp only
  split
  · exact .inl rfl
  split
  · exact .inl rfl
  rename_i hvalid
  split
  · exact .inl rfl
  split
  · exact .inl rfl
  rename_i masterNetmask _ hduplicates
  unfold clmIefbInit
  split
  · exact .inl rfl
  rename_i c out hinit
  split at hinit
  · cases hinit
  split at hinit
  · cases hinit
  let st : MasterStart o :=
    { vc :=
        { cfg := cfg, valid := (Bool.not_eq_false _).mp hvalid
          noDuplicates := (Bool.not_eq_false _).mp hduplicates }
      shared := { ClmShared.cleared cfg with
        parameterNo := loadParameterNo fs fo e directory files
        iefbBroadcastIp := clUtilCalcBroadcastAddress masterNetmask cfg.masterId }
      config := rfl
      now := now }
  have hst : st.init = (c, out) := Option.some.inj hinit
  have hfile : (parameterFile fs fo e directory).run files out = _ :=
    (congrArg (fun x => (parameterFile fs fo e directory).run files x.2) hst).symm.trans
      (parameterFile_init st)
  refine .inr ⟨st, if answers.slmpInit then 0 else -1, rfl, ?_⟩
  rw [hfile, hst]

/-- a session does not start, or its master saves the number of its start -/
theorem sessionStep_cases (o : Options) (session : Session) :
    sessionStep fs fo e directory o files session = (files, [])
      ∨ ∃ (st : MasterStart o) (es : List Event),
        st.shared.parameterNo = loadParameterNo fs fo e directory files
        ∧ sessionStep fs fo e directory o files session
          = ((saveParameterNo fs fo e directory files st.parameterNo).2,
            [{ parameterNo := st.parameterNo, out := (st.run es).2
               saves := [(saveParameterNo fs fo e directory files st.parameterNo).1] }]) := by
  unfold sessionStep
  rcases @clmMasterInit_cases _ fs fo e directory files o session.cfg session.answers session.now with
    hinit | ⟨st, ret, hload, hinit⟩
  · rw [hinit]
    exact .inl rfl
  rw [hinit]
  dsimp only
  by_cases hret : ret = 0
  · refine .inr ⟨st, session.events, hload, ?_⟩
    rw [if_pos hret, parameterFile_silent (st.steps_savedNo session.events),
      st.init_spec.parameterNo]
    rfl
  · refine .inr ⟨st, [], hload, ?_⟩
    rw [if_neg hret, st.init_spec.parameterNo, st.run_nil]
    dsimp only
    rw [parameterFile_silent (List.forall_mem_nil _), List.append_nil]
    rfl

/-- a saved number is loaded again -/
theorem loadParameterNo_save (hfs : fs.Faithful) {n : UInt16}
    (h : (saveParameterNo fs fo e directory files n).1 ≠ -1) :
    loadParameterNo fs fo e directory (saveParameterNo fs fo e directory files n).2 = n := by
  have hload : clFileLoad fs fo e (saveParameterNo fs fo e directory files n).2 (some directory)
      clmFilenameParamNo 2 = some (field16 e n) := clFileSaveIfModified_load hfs h
  unfold loadParameterNo
  rw [hload]
  exact raw16_bufferOf (t := []) (by rw [List.append_nil]; rfl)

/-! ## the numbers of the sessions -/

/-- the session of number `n`: it is in all requests -/
def SessionLog.HasNumber (log : SessionLog) (n : UInt16) : Prop :=
  log.parameterNo = n ∧ ∀ g start destIp destPort dg,
    .sendRequest g start destIp destPort dg ∈ log.out → requestParameterNo dg = n

/-- the sessions so far have counted on from `first`, and the last number is in the file -/
structure Counted (first : UInt16) (hist : List SessionLog) (saved : UInt16) : Prop where
  number : ∀ k (log : SessionLog), hist[k]? = some log →
    log.HasNumber (first + 1 + UInt16.ofNat k)
  saved : saved = first + UInt16.ofNat hist.length

theorem Counted.session {first saved : UInt16} {hist : List SessionLog} {log : SessionLog}
    (h : Counted first hist saved) (hlog : log.HasNumber (saved + 1)) :
    Counted first (hist ++ [log]) (saved + 1) := by
  have hnext : saved + 1 = first + 1 + UInt16.ofNat hist.length := by
    rw [h.saved, UInt16.add_assoc, UInt16.add_comm _ 1, ← UInt16.add_assoc]
  refine ⟨?_, ?_⟩
  · intro k x hx
    rcases Nat.lt_trichotomy k hist.length with hlt | rfl | hgt
    · rw [List.getElem?_append_left hlt] at hx
      exact h.number k x hx
    · rw [List.getElem?_concat_length] at hx
      obtain rfl := Option.some.inj hx
      exact hnext ▸ hlog
    · rw [List.getElem?_eq_none (by rw [List.length_append]; exact hgt)] at hx
      cases hx
  · rw [List.length_append, List.length_singleton, UInt16.ofNat_add, ← UInt16.add_assoc, h.saved]
    rfl

/-- a session in which saving is successful -/
theorem Counted.step (hfs : fs.Faithful) {o : Options} {first : UInt16} {hist : List SessionLog}
    {session : Session} (h : Counted first hist (loadParameterNo fs fo e directory files))
    (hsaves : ∀ log ∈ (sessionStep fs fo e directory o files session).2, ∀ ret ∈ log.saves,
      ret ≠ -1) :
    Counted first (hist ++ (sessionStep fs fo e directory o files session).2)
      (loadParameterNo fs fo e directory (sessionStep fs fo e directory o files session).1) := by
  rcases @sessionStep_cases _ fs fo e directory files o session with
    hstep | ⟨st, es, hload, hstep⟩
  · rw [hstep, List.append_nil]
    exact h
  · rw [hstep] at hsaves ⊢
    have hret := hsaves _ (List.mem_singleton_self _) _ (List.mem_singleton_self _)
    rw [loadParameterNo_save hfs hret]
    have hno : st.parameterNo = loadParameterNo fs fo e directory files + 1 := by
      rw [← hload]
      rfl
    rw [hno]
    exact h.session ⟨rfl, fun g start destIp destPort dg hmem =>
      (st.sendRequest_parameterNo hmem).trans hno⟩

variable (fs fo e directory) in
/-- **The parameter numbers of the sessions.**  While saving is successful, the sessions count on from
the number in the file, or from its default, and no two sessions after each other have the same
number.  What is saved is read back, whether it had to be written or not. -/
theorem parameterNumbers (hfs : fs.Faithful) (o : Options) (files : σ) (ss : List Session)
    (hsaves : ∀ log ∈ ((sessions fs fo e directory o).run files ss).2,
      ∀ ret ∈ log.saves, ret ≠ -1) :
    (∀ k (log : SessionLog), ((sessions fs fo e directory o).run files ss).2[k]? = some log →
      log.HasNumber (loadParameterNo fs fo e directory files + 1 + UInt16.ofNat k))
    ∧ (∀ k (previous log : SessionLog),
      ((sessions fs fo e directory o).run files ss).2[k]? = some previous →
      ((sessions fs fo e directory o).run files ss).2[k+1]? = some log →
        log.HasNumber (previous.parameterNo + 1) ∧ log.parameterNo ≠ previous.parameterNo)
    ∧ ∀ (files : σ) (directory : Option (List UInt8)) (filename object : List UInt8),
      (clFileSaveIfModified fs fo e files directory filename object).1 ≠ -1 →
      clFileLoad fs fo e (clFileSaveIfModified fs fo e files directory filename object).2 directory
        filename object.length = some object := by
  have hrun : Counted (loadParameterNo fs fo e directory files)
      ([] ++ ((sessions fs fo e directory o).run files ss).2)
      (loadParameterNo fs fo e directory ((sessions fs fo e directory o).run files ss).1) :=
    (sessions fs fo e directory o).run_inv
    (c := fun files session => ∀ log ∈ ((sessions fs fo e directory o).step files session).2,
      ∀ ret ∈ log.saves, ret ≠ -1)
    (I := fun hist t =>
      Counted (loadParameterNo fs fo e directory files) hist (loadParameterNo fs fo e directory t))
    (fun hist t session h hc => h.step hfs hc) []
    ⟨fun _ _ hnil => absurd hnil (by simp), by simp⟩ (Machine.Steps.of_outputs _ hsaves)
  rw [List.nil_append] at hrun
  refine ⟨hrun.number, ?_, fun files directory filename object h => clFileSaveIfModified_load hfs h⟩
  intro k previous log hprevious hlog
  have hnext := hrun.number (k+1) log hlog
  have hno : previous.parameterNo + 1
      = loadParameterNo fs fo e directory files + 1 + UInt16.ofNat (k+1) := by
    rw [(hrun.number k previous hprevious).1, UInt16.ofNat_add, ← UInt16.add_assoc]
    rfl
  rw [← hno] at hnext
  refine ⟨hnext, ?_⟩
  rw [hnext.1]
  exact fun hsame => absurd (UInt16.add_eq_left.mp hsame) (by decide)

end

/-! ## a small platform -/

/-- files in memory: a path and its content -/
def exampleFiles : FileSystem (List UInt8 → Option (List UInt8)) where
  clalLoadFile files fullpath size1 size2 :=
    match files fullpath with
    | none => none
    | some content =>
      if size1 + size2 > content.length then none
      else some (content.take size1, (content.drop size1).take size2)
  clalSaveFile files fullpath object1 object2 :=
    (true, Function.update files fullpath (some (object1 ++ object2)))

theorem exampleFiles_faithful : exampleFiles.Faithful := by
  refine ⟨?_, ?_⟩
  · intro files fullpath size1 size2 object1 object2 h
    unfold exampleFiles at h
    dsimp only at h
    split at h
    · cases h
    split at h
    · cases h
    rename_i content _ hsize
    obtain ⟨rfl, rfl⟩ := Prod.mk.inj (Option.some.inj h)
    rw [List.length_take, List.length_take, List.length_drop]
    omega
  · intro files fullpath object1 object2 _
    unfold exampleFiles
    dsimp only
    rw [Function.update_self]
    dsimp only
    rw [if_neg (by rw [List.length_append]; omega), List.take_left' rfl, List.drop_left' rfl,
      List.take_length]

def exampleFileOptions : FileOptions :=
  { maxDirectorypathSize := 240, useBackslashPathSeparator := false }

/-- a master that starts and sends its first request -/
def exampleSession (now : UInt32) : Session :=
  { cfg := exampleConfig false false
    answers :=
      { clalInit := true, masterNetmask := some 0xFFFFFF00, cciefbSocket := 4
        cciefbArbitrationSocket := -1, slmpInit := true }
    now := now, events := [.exampleTick (now + 5000)] }

/-- two sessions without a file at the beginning -/
def exampleSessions : List SessionLog :=
  ((sessions exampleFiles exampleFileOptions .little (stringBytes "/var/clink")
    exampleOptions).run (fun _ => none) [exampleSession 0, exampleSession 9000]).2

theorem parameterNumbers_example : ∃ first second : SessionLog,
    exampleSessions[0]? = some first ∧ exampleSessions[1]? = some second
      ∧ first.HasNumber 1 ∧ second.HasNumber 2 := by
  have hsaves : exampleSessions.all (fun log => log.saves.all (· ≠ -1)) = true := by decide +kernel
  have hlength : exampleSessions.length = 2 := by decide +kernel
  have hload : loadParameterNo exampleFiles exampleFileOptions .little (stringBytes "/var/clink")
      (fun _ => none) = 0 := by decide +kernel
  have hnumbers := (parameterNumbers exampleFiles exampleFileOptions .little
    (stringBytes "/var/clink") exampleFiles_faithful exampleOptions (fun _ => none)
    [exampleSession 0, exampleSession 9000] (by
      intro log hlog ret hret
      have hall := List.all_eq_true.mp (List.all_eq_true.mp hsaves log hlog) ret hret
      exact of_decide_eq_true hall)).1
  rw [hload] at hnumbers
  have hfirst := List.getElem?_eq_getElem (l := exampleSessions) (i := 0) (by rw [hlength]; decide)
  have hsecond := List.getElem?_eq_getElem (l := exampleSessions) (i := 1) (by rw [hlength]; decide)
  exact ⟨_, _, hfirst, hsecond, hnumbers 0 _ hfirst, hnumbers 1 _ hsecond⟩

end CLink
