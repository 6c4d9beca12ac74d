import UnionBank.Lib.Crash

/-!
# JSON files that survive crashes

`save_json` and `load_json` on one file, its backup and the temporary files beside it, called in any order and stopped
anywhere.

- `Json`: what the functions use of `json.dump` and `json.loads`; `Disk`: the three kinds of files;
- `saveJson`, `loadJson`: the calls as steps on the disk; `Event`, `History`: calls that ended and calls that did not;
- `current`: the data that a load may find; `Intact`: the file holds one of them; `crashSafe`.
-/

namespace UnionBank

open Crashes

/-- The data of a JSON file, its text, and what is read back from a text without its outer blanks. -/
structure Json (α : Type) where
  dumps : α → String
  loads : String → Option α
  strip : String → String
  /-- `{}`. -/
  empty : α
  strip_dumps : ∀ a, strip (dumps a) ≠ ""
  loads_dumps : ∀ a, loads (strip (dumps a)) = some a

namespace FileIo

/-- What a file holds: a text, or bytes that are no UTF-8. -/
inductive Content where
  | text (s : String)
  | undecodable
  deriving DecidableEq

/-- `filepath`, `filepath + ".bak"` and the temporary files, the last one made first. -/
structure Disk where
  main : Option Content := none
  bak : Option Content := none
  temps : List Content := []

/-- How `shutil.copy2` went: a failed copy is logged, and leaves what it leaves. -/
inductive Backup where
  | copied
  | failed (left : Option Content)

namespace Disk

variable {α : Type}

/-- The copy to `_backup_path(filepath)`. -/
def backUp : Backup → Action Disk
  | .copied => ⟨fun d => { d with bak := d.main }, fun d d' => ∃ c, d' = { d with bak := some c }⟩
  | .failed left => ⟨fun d => { d with bak := left }, fun d d' => ∃ c, d' = { d with bak := some c }⟩

/-- `tempfile.mkstemp`. -/
def makeTemp : Action Disk := .atomic fun d => { d with temps := .text "" :: d.temps }

/-- `json.dump` to the temporary file, flushed and synchronised. -/
def writeTemp (s : String) : Action Disk where
  effect d := { d with temps := .text s :: d.temps.tail }
  torn d d' := ∃ c, d' = { d with temps := c :: d.temps.tail }

/-- `os.replace(tmp_path, filepath)`. -/
def replace : Action Disk := .atomic fun d => { d with main := d.temps.head?, temps := d.temps.tail }

/-- `json.dump` to the file itself, opened for writing. -/
def writeMain (s : String) : Action Disk where
  effect d := { d with main := some (.text s) }
  torn d d' := ∃ c, d' = { d with main := some c }

end Disk

open Disk

variable {α : Type} (json : Json α)

/-- The steps of `save_json`. -/
def saveJson (backup : Backup) (data : α) (d : Disk) : List (Action Disk) :=
  (if d.main.isSome then [backUp backup] else []) ++ [makeTemp, writeTemp (json.dumps data), replace]

/-- What a file that exists reads as: nothing, data, or a text that is no JSON; or it does not decode. -/
inductive Reading (α : Type) where
  | blank
  | data (a : α)
  | malformed
  | undecodable

def read : Content → Reading α
  | .undecodable => .undecodable
  | .text s => if json.strip s = "" then .blank else (json.loads (json.strip s)).elim .malformed .data

/-- The outcome of `load_json`, `none` for a `UnicodeDecodeError`, and its steps. -/
def loadJson (backup : Backup) (d : Disk) : Option α × List (Action Disk) :=
  match d.main.map (read json) with
  | none => (some json.empty, [])
  | some .blank => (some json.empty, [])
  | some (.data a) => (some a, [])
  | some _ =>
    match d.bak.map (read json) with
    | some (.data a) => (some a, [writeMain (json.dumps a)])
    -- the inner handler names `JSONDecodeError` and `IOError` only
    | some .undecodable => (none, [])
    | _ => (some json.empty, saveJson json backup json.empty d)

/-- A call that ended, or one that a crash or an `OSError` stopped. -/
inductive Event (α : Type) where
  | saved (data : α)
  | saveStopped (data : α)
  | loaded (outcome : Option α)
  | loadStopped

inductive Step : Disk → Event α → Disk → Prop
  | saved (backup : Backup) (data : α) (d : Disk) : Step d (.saved data) (run (saveJson json backup data d) d)
  | saveStopped {backup : Backup} {data : α} {d d' : Disk} (crash : Crash (saveJson json backup data d) d d') :
      Step d (.saveStopped data) d'
  | loaded (backup : Backup) (d : Disk) :
      Step d (.loaded (loadJson json backup d).1) (run (loadJson json backup d).2 d)
  | loadStopped {backup : Backup} {d d' : Disk} (crash : Crash (loadJson json backup d).2 d d') :
      Step d .loadStopped d'

/-- Calls one after another. -/
inductive History : Disk → List (Event α) → Disk → Prop
  | nil (d : Disk) : History d [] d
  | snoc {d d' d'' : Disk} {events : List (Event α)} {e : Event α} (calls : History d events d')
      (step : Step json d' e d'') : History d (events ++ [e]) d''

/-- The data that may be current after one more call. A load settles which it is. -/
def currentAfter (candidates : List α) : Event α → List α
  | .saved data => [data]
  | .saveStopped data => if candidates = [] then [] else data :: candidates
  | .loaded (some a) => if candidates = [] then [] else [a]
  | _ => candidates

/-- The data of the last save that ended, or of one that was stopped after it. -/
def current (events : List (Event α)) : List α := events.foldl currentAfter []

def Event.isLoad : Event α → Bool
  | loaded _ | loadStopped => true
  | _ => false

/-- The file holds one of these data, if there are any. -/
def Intact (candidates : List α) (d : Disk) : Prop :=
  candidates ≠ [] → ∃ a ∈ candidates, d.main = some (.text (json.dumps a))

/-- What `load_json` takes for a corrupted file. -/
def Corrupted (d : Disk) : Prop :=
  d.main.map (read json) = some .malformed ∨ d.main.map (read json) = some .undecodable

/-- The backup is a good copy of `a`. -/
def GoodCopy (a : α) (d : Disk) : Prop := d.bak.map (read json) = some (.data a)

variable {json} {backup : Backup} {data a : α} {d d' : Disk} {events : List (Event α)} {e : Event α}

/-! ## The calls -/

theorem read_dumps : read json (.text (json.dumps a)) = .data a := by
  simp [read, json.strip_dumps, json.loads_dumps]

theorem main_backUp : ((backUp backup).effect d).main = d.main := by cases backup <;> rfl

theorem main_torn_backUp (h : (backUp backup).torn d d') : d'.main = d.main := by
  cases backup <;> obtain ⟨c, rfl⟩ := h <;> rfl

theorem main_run_copy (b : Bool) : (run (if b then [backUp backup] else []) d).main = d.main := by
  cases b
  · rfl
  · exact main_backUp

theorem run_saveJson : (run (saveJson json backup data d) d).main = some (.text (json.dumps data)) := by
  rw [saveJson, run_append]
  rfl

/-- A save that was stopped has replaced the file or has not touched it. -/
theorem crash_saveJson (crash : Crash (saveJson json backup data d) d d') :
    d'.main = d.main ∨ d'.main = some (.text (json.dumps data)) := by
  rcases crash_append.mp crash with early | late
  · refine .inl (early.induction (I := fun s => s.main = d.main) rfl ?_ ?_)
    · intro a mem s same
      split at mem
      · rw [List.mem_singleton.mp mem, main_backUp, same]
      · cases mem
    · intro a mem s s' same torn
      split at mem
      · rw [List.mem_singleton.mp mem] at torn
        rw [main_torn_backUp torn, same]
      · cases mem
  · have before : (run (if d.main.isSome then [backUp backup] else []) d).main = d.main := main_run_copy d.main.isSome
    cases late with
    | between => exact .inl before
    | inside torn => exact torn.elim
    | later late =>
      cases late with
      | between => exact .inl before
      | inside torn =>
        obtain ⟨c, rfl⟩ := torn
        exact .inl before
      | later late =>
        rcases crash_atomic.mp late with rfl | rfl
        · exact .inl before
        · exact .inr rfl

/-- A load of an intact file writes nothing. -/
theorem loadJson_intact (h : d.main = some (.text (json.dumps a))) : loadJson json backup d = (some a, []) := by
  simp [loadJson, h, read_dumps]

/-- A load of a corrupted file with a good copy returns the copy and writes it to the file. -/
theorem loadJson_goodCopy (good : GoodCopy json a d) (bad : Corrupted json d) :
    loadJson json backup d = (some a, [writeMain (json.dumps a)]) := by
  rcases bad with bad | bad <;> simp [loadJson, bad, show _ = _ from good]

/-- A load of a file that is not corrupted writes nothing. -/
theorem loadJson_sound (h : ¬Corrupted json d) : (loadJson json backup d).2 = [] := by
  unfold loadJson
  split
  · rfl
  · rfl
  · rfl
  · next r _ _ _ =>
    cases r <;> simp_all [Corrupted]

/-! ## The calls one after another -/

theorem crash_nil (crash : Crash [] d d') : d' = d := by
  cases crash
  rfl

theorem intact_step {candidates : List α} (step : Step json d e d') (intact : Intact json candidates d) :
    Intact json (currentAfter candidates e) d' := by
  cases step with
  | saved backup data => exact fun _ => ⟨data, List.mem_singleton_self data, run_saveJson⟩
  | @saveStopped backup data _ _ crash =>
    intro some
    by_cases none : candidates = []
    · exact absurd (if_pos none) some
    · simp only [currentAfter, if_neg none]
      rcases crash_saveJson crash with same | new
      · obtain ⟨a, mem, main⟩ := intact none
        exact ⟨a, List.mem_cons_of_mem _ mem, same.trans main⟩
      · exact ⟨data, List.mem_cons_self, new⟩
  | loaded backup =>
    by_cases none : candidates = []
    · intro some
      cases outcome : (loadJson json backup d).1 <;> simp [outcome, currentAfter, none] at some
    · obtain ⟨a, mem, main⟩ := intact none
      rw [loadJson_intact main]
      exact fun _ => ⟨a, by simp [currentAfter, none], main⟩
  | @loadStopped backup _ _ crash =>
    intro some
    obtain ⟨a, mem, main⟩ := intact some
    rw [loadJson_intact main] at crash
    exact ⟨a, mem, by rw [crash_nil crash, main]⟩

theorem intact_history (calls : History json d events d') : Intact json (current events) d' := by
  induction calls with
  | nil => exact fun none => absurd rfl none
  | snoc _ step ih =>
    rw [current, List.foldl_append]
    exact intact_step step ih

/-- Once a save ended there are data to find. -/
theorem current_ne_nil (mem : .saved data ∈ events) : current events ≠ [] := by
  induction events using List.reverseRecOn with
  | nil => cases mem
  | append_singleton events e ih =>
    rw [current, List.foldl_append]
    rcases List.mem_append.mp mem with before | last
    · have some := ih before
      cases e with
      | loaded outcome => cases outcome <;> simp [currentAfter, show events.foldl currentAfter [] ≠ [] from some]
      | _ => simp [currentAfter, show events.foldl currentAfter [] ≠ [] from some]
    · rw [← List.mem_singleton.mp last]
      exact List.cons_ne_nil _ _

/-- A load, ended or stopped, leaves a good copy where it is and a sound file as it was. -/
theorem goodCopy_step (step : Step json d e d') (load : e.isLoad) (good : GoodCopy json a d) :
    d'.bak = d.bak ∧ (¬Corrupted json d → d' = d) := by
  by_cases bad : Corrupted json d
  · refine ⟨?_, fun sound => absurd bad sound⟩
    cases step with
    | loaded => rw [loadJson_goodCopy good bad]; rfl
    | loadStopped crash =>
      rw [loadJson_goodCopy good bad] at crash
      cases crash with
      | between => rfl
      | inside torn =>
        obtain ⟨c, rfl⟩ := torn
        rfl
      | later rest => rw [crash_nil rest]; rfl
    | _ => cases load
  · have same : d' = d := by
      cases step with
      | loaded => rw [loadJson_sound bad]; rfl
      | loadStopped crash =>
        rw [loadJson_sound bad] at crash
        exact crash_nil crash
      | _ => cases load
    exact ⟨by rw [same], fun _ => same⟩

theorem goodCopy_history (calls : History json d events d') (loads : ∀ e ∈ events, e.isLoad)
    (good : GoodCopy json a d) : d'.bak = d.bak ∧ (¬Corrupted json d → d' = d) := by
  induction calls with
  | nil => exact ⟨rfl, fun _ => rfl⟩
  | @snoc d₁ d₂ events e _ step ih =>
    obtain ⟨bak, sound⟩ := ih fun e mem => loads e (List.mem_append_left _ mem)
    obtain ⟨bak', sound'⟩ := goodCopy_step step (loads e (by simp)) (a := a) (by rw [GoodCopy, bak]; exact good)
    refine ⟨bak'.trans bak, fun h => ?_⟩
    cases sound h
    exact sound' h

/-- A load after the calls finds the data of the last save that ended or of one that was stopped after it, and writes
nothing. Loads, ended or stopped anywhere, keep a good copy, do not touch a file that is not corrupted, and the load
that finds the file corrupted gives the copy back. -/
theorem crashSafe (calls : History json d events d') :
    ((∃ data, .saved data ∈ events) → ∀ backup, ∃ a ∈ current events, loadJson json backup d' = (some a, [])) ∧
      ((∀ e ∈ events, e.isLoad) → ∀ a, GoodCopy json a d →
        d'.bak = d.bak ∧ (¬Corrupted json d → d' = d) ∧
          (Corrupted json d' → ∀ backup, loadJson json backup d' = (some a, [writeMain (json.dumps a)]))) := by
  constructor
  · rintro ⟨data, mem⟩ backup
    obtain ⟨a, mem, main⟩ := intact_history calls (current_ne_nil mem)
    exact ⟨a, mem, loadJson_intact main⟩
  · intro loads a good
    obtain ⟨bak, sound⟩ := goodCopy_history calls loads good
    exact ⟨bak, sound, fun bad backup => loadJson_goodCopy (by rw [GoodCopy, bak]; exact good) bad⟩

end FileIo

namespace Sample

open FileIo

/-- Two values and their texts. -/
def twoJson : Json Bool where
  dumps b := if b then "1" else "{}"
  loads s := if s = "1" then some true else if s = "{}" then some false else none
  strip s := s
  empty := false
  strip_dumps := by decide
  loads_dumps := by decide

/-- The disk after a save, with the copy that another save left when it was stopped. -/
def stopped : Disk where
  main := some (.text "1")
  bak := some .undecodable

/-- A broken file beside a copy of what it was. -/
def broken : Disk where
  main := some (.text "\x7b")
  bak := some (.text "1")

theorem crashSafe_examples :
    (∃ a ∈ current [.saved true, .saveStopped false], loadJson twoJson .copied stopped = (some a, [])) ∧
      loadJson twoJson .copied broken = (some true, [Disk.writeMain "1"]) := by
  constructor
  · have save : Step twoJson {} (.saved true) _ := .saved .copied true {}
    have copying : Crash (saveJson twoJson .copied false { main := some (.text "1") })
        { main := some (.text "1") } stopped := .inside ⟨.undecodable, rfl⟩
    have torn : Step twoJson _ (.saveStopped false) stopped := .saveStopped copying
    exact (crashSafe (.snoc (.snoc (.nil {}) save) torn)).1 ⟨true, by simp⟩ .copied
  · have calls : History twoJson broken [] broken := .nil broken
    exact ((crashSafe calls).2 (by simp) true rfl).2.2 (.inl rfl) .copied

end Sample

end UnionBank
