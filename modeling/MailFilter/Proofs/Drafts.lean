import MailFilter.Proofs.Loading
import MailFilter.Proofs.Storing
import MailFilter.Run.Batch

/-!
# What becomes of a filter file

Both commands first see what can be made of a filter file, and change nothing while they do. The
file may be missing or fail to load, it may hold no filters, and the script that is made of its
filters may be rejected by the check. All this is the draft of a file. Only an accepted draft is
stored or printed; every other one just decides how the command ends.
-/
namespace MailFilter

/-- What can be made of a filter file. -/
inductive Draft where
  | missing
  | unloadable (failure : Failure)
  | blank
  | rejected
  | accepted (script : Sieve.Script)

namespace Draft

/-- The draft of a file that was loaded. -/
def ofSet (fs : FilterSet) (name : Text) (skipVerify : Bool) : Draft :=
  let script := Sieve.Script.ofFilterSet name fs
  if fs.entries.isEmpty then .blank
  else if skipVerify || Sieve.verify fs script then .accepted script
  else .rejected

/-- A failure that concerns one file only is no failure of the command. -/
def tolerated {α : Type} (a : α) (e : Failure) : Except Failure α :=
  if e.isTolerable then .ok a else .error e

/-- What a draft makes of its mailbox in a batch, if it can be stored. -/
def outcome : Draft → Except Failure Outcome
  | .missing => .ok .skipped
  | .unloadable e => tolerated .failed e
  | .blank => .ok .skipped
  | .rejected => .ok .failed
  | .accepted _ => .ok .converted

/-- The status of a command for one file, if the draft can be stored. -/
def status : Draft → Except Failure Nat
  | .missing => .ok 1
  | .unloadable e => tolerated 1 e
  | .blank => .ok 0
  | .rejected => .ok 1
  | .accepted _ => .ok 0

end Draft

namespace Run

variable {α : Type}

/-! ## Checking -/

theorem actsAs_verify (fs : FilterSet) (script : Sieve.Script) :
    ActsAs (verify fs script) fun _ d => (.ok (Sieve.verify fs script), d) :=
  (actsAs_report _).bind fun _ => actsAs_pure _

theorem ActsAs.ite {x y : Run α} {f g : Setting → Disk → Except Failure α × Disk}
    (hx : ActsAs x f) (hy : ActsAs y g) (b : Bool) :
    ActsAs (if b then x else y) fun s d => if b then f s d else g s d := by
  cases b with
  | true => exact hx
  | false => exact hy

/-- What follows the check, whether it is made or not. -/
theorem actsAs_checked {fs : FilterSet} {script : Sieve.Script} {y : Bool → Run α}
    {f : Bool → Setting → Disk → Except Failure α × Disk} (h : ∀ b, ActsAs (y b) (f b))
    (skipVerify : Bool) :
    ActsAs (if skipVerify then pure true >>= y else verify fs script >>= y)
      (f (skipVerify || Sieve.verify fs script)) := by
  cases skipVerify with
  | true => exact (actsAs_pure true).bind h
  | false => exact (actsAs_verify fs script).bind h

theorem reading_verify (fs : FilterSet) (script : Sieve.Script) : Reading (verify fs script) :=
  (actsAs_verify fs script).reading

/-- The folder of a mailbox. -/
def folderFor (outputDir mailbox : Text) : Path :=
  (Path.parse outputDir).join (Path.parse mailbox)

@[simp] theorem normal_folderFor (outputDir mailbox : Text) :
    (folderFor outputDir mailbox).Normal :=
  (Path.normal_parse outputDir).join (Path.normal_parse mailbox)

variable [Platform]

/-! ## Drafts of files -/

/-- The draft of a file under a name. -/
def draftOf (path encoding name : Text) (skipVerify : Bool) (s : Setting) (d : Disk) : Draft :=
  if found path s d then
    match (loadFilters path encoding).outcome s d with
    | .ok fs => Draft.ofSet fs name skipVerify
    | .error e => .unloadable e
  else .missing

/-- A script that is made of loaded filters and that passed the check, where one was made. -/
structure IsDraftOf (path encoding name : Text) (skipVerify : Bool) (s : Setting) (d : Disk)
    (fs : FilterSet) (script : Sieve.Script) : Prop where
  found : found path s d = true
  loaded : (loadFilters path encoding).outcome s d = .ok fs
  nonempty : fs.entries ≠ []
  script_eq : script = Sieve.Script.ofFilterSet name fs
  verified : skipVerify = true ∨ Sieve.verify fs script = true

theorem draftOf_eq_accepted_iff {path encoding name : Text} {skipVerify : Bool} {s : Setting}
    {d : Disk} {script : Sieve.Script} :
    draftOf path encoding name skipVerify s d = .accepted script ↔
      ∃ fs, IsDraftOf path encoding name skipVerify s d fs script := by
  unfold draftOf
  constructor
  · intro h
    split at h
    next hfound =>
      split at h
      next fs hload =>
        simp only [Draft.ofSet] at h
        split_ifs at h with hempty hverified
        obtain rfl := Draft.accepted.inj h
        exact ⟨fs, hfound, hload, by simpa using hempty, rfl, by simpa using hverified⟩
      · cases h
    · cases h
  · rintro ⟨fs, hfound, hload, hne, rfl, hverified⟩
    have hempty : fs.entries.isEmpty = false := by simpa using hne
    simp [hfound, hload, Draft.ofSet, hempty, hverified]

theorem draftOf_eq_unloadable {path encoding name : Text} {skipVerify : Bool} {s : Setting}
    {d : Disk} {e : Failure} (h : draftOf path encoding name skipVerify s d = .unloadable e) :
    found path s d = true ∧ (loadFilters path encoding).outcome s d = .error e := by
  unfold draftOf at h
  split at h
  next hfound =>
    split at h
    · simp only [Draft.ofSet] at h
      split_ifs at h
    next e' hload =>
      obtain rfl := Draft.unloadable.inj h
      exact ⟨hfound, hload⟩
  · cases h

theorem actsAs_convertSet (fs : FilterSet) (name : Text) :
    ActsAs (convertSet fs name) fun _ d => (.ok (Sieve.Script.ofFilterSet name fs), d) :=
  (actsAs_report _).bind fun _ => actsAs_pure _

theorem reading_convertSet (fs : FilterSet) (name : Text) : Reading (convertSet fs name) :=
  (actsAs_convertSet fs name).reading

/-! ## Failures of one file -/

theorem Reading.orElseNote {run : Run α} (h : Reading run) (message : Text → Text) :
    Reading (orElseNote run message) := by
  unfold Run.orElseNote
  rw [map_eq_pure_bind]
  refine (h.bind fun a => reading_pure (some a)).tryCatch fun e => ?_
  split
  · exact (reading_note _ _).bind fun _ => reading_pure none
  · exact reading_throw e

/-- A failure that concerns one file is noted, and nothing is given. -/
theorem ActsAs.orElseNote {run : Run α} {f : Setting → Disk → Except Failure α × Disk}
    (h : ActsAs run f) (message : Text → Text) :
    ActsAs (orElseNote run message) fun s d =>
      match f s d with
      | (.ok a, d') => (.ok (some a), d')
      | (.error e, d') => (Draft.tolerated none e, d') := by
  have hnote (e : Failure) : ActsAs (if e.isTolerable then do
        note .error (message (e.message?.getD []))
        return none
      else throw e : Run (Option α)) fun _ d => (Draft.tolerated none e, d) := by
    unfold Draft.tolerated
    split
    · exact (actsAs_note _ _).bind fun _ => actsAs_pure none
    · exact actsAs_throw e
  unfold Run.orElseNote
  rw [map_eq_pure_bind]
  refine ((h.bind fun a => actsAs_pure (some a)).tryCatch hnote).congr fun s d => ?_
  simp only [orElseFrom, andThen]
  rcases f s d with ⟨_ | _, d'⟩ <;> rfl

/-! ## One mailbox of a batch -/

/-- What an accepted draft makes of its mailbox: the script is stored in the folder. -/
def delivered (script : Sieve.Script) (dest : Path) (s : Setting) (d : Disk) :
    Except Failure Outcome × Disk :=
  match (writeScripts [script] dest).onDisk s d with
  | (.ok _, d') => (.ok .converted, d')
  | (.error e, d') => (.error e, d')

/-- What becomes of a draft in the folder of its mailbox. -/
def settled (outputDir mailbox : Text) : Draft → Setting → Disk → Except Failure Outcome × Disk
  | .accepted script, s, d => delivered script (folderFor outputDir mailbox) s d
  | draft, _, d => (draft.outcome, d)

theorem actsAs_deliver (script : Sieve.Script) (dest : Path) :
    ActsAs (do let _ ← writeScripts [script] dest; return Outcome.converted)
      (delivered script dest) := by
  have hwrite := silent_writeScripts [script] dest
  refine (ActsAs.bind hwrite fun _ => actsAs_pure Outcome.converted).congr fun s d => ?_
  simp only [andThen, delivered]
  rcases (writeScripts [script] dest).onDisk s d with ⟨_ | _, d'⟩ <;> rfl

/-- What follows the check of a mailbox. -/
theorem actsAs_judged (script : Sieve.Script) (outputDir mailbox message : Text) (b : Bool) :
    ActsAs (if b then do
        let dest ← mailboxFolder outputDir (.text mailbox)
        let _ ← writeScripts [script] dest
        return Outcome.converted
      else do
        note .error message
        return Outcome.failed)
      (settled outputDir mailbox (if b then .accepted script else .rejected)) := by
  cases b with
  | true => exact actsAs_deliver script (folderFor outputDir mailbox)
  | false => exact (actsAs_note _ _).bind fun _ => actsAs_pure Outcome.failed

theorem actsAs_convertMailbox (mailbox path outputDir encoding : Text) (skipVerify : Bool) :
    ActsAs (convertMailbox (.text mailbox) (.text path) outputDir skipVerify encoding)
      (andThen (fun s d => ((loadFilters path encoding).outcome s d, d)) fun fs =>
        settled outputDir mailbox (Draft.ofSet fs mailbox skipVerify)) := by
  refine ActsAs.bind (reading_loadFilters path encoding) fun fs => ?_
  by_cases hblank : fs.entries.isEmpty = true
  · simp only [Draft.ofSet, if_pos hblank]
    exact (actsAs_note _ _).bind fun _ => actsAs_pure Outcome.skipped
  · simp only [Draft.ofSet, if_neg hblank]
    exact (actsAs_convertSet fs mailbox).bind fun script =>
      actsAs_checked (actsAs_judged script outputDir mailbox _) skipVerify

/-- A failure that concerns the mailbox only counts for it. -/
def counted (r : Except Failure Outcome × Disk) : Except Failure Outcome × Disk :=
  match r with
  | (.ok o, d) => (.ok o, d)
  | (.error e, d) => (Draft.tolerated .failed e, d)

theorem ActsAs.counted {run : Run Outcome} {f : Setting → Disk → Except Failure Outcome × Disk}
    (h : ActsAs run f) (message : Text → Text) :
    ActsAs (do let o ← Run.orElseNote run message; return o.getD .failed) fun s d =>
      Run.counted (f s d) := by
  refine ((h.orElseNote message).bind fun o => actsAs_pure (o.getD .failed)).congr fun s d => ?_
  simp only [andThen, Run.counted]
  rcases f s d with ⟨e | o, d'⟩
  · simp only [Draft.tolerated]
    cases e.isTolerable <;> rfl
  · rfl

/-- What a mapping does to a disk: the draft of its file decides, and an accepted script counts by
how the storing of it ends. -/
def carriedOut (outputDir mailbox : Text) : Draft → Setting → Disk → Except Failure Outcome × Disk
  | .accepted script, s, d =>
    match (writeScripts [script] (folderFor outputDir mailbox)).onDisk s d with
    | (.ok _, d') => (.ok .converted, d')
    | (.error e, d') => (Draft.tolerated .failed e, d')
  | draft, _, d => (draft.outcome, d)

@[simp] theorem counted_settled (outputDir mailbox : Text) (draft : Draft) (s : Setting)
    (d : Disk) :
    counted (settled outputDir mailbox draft s d) = carriedOut outputDir mailbox draft s d := by
  cases draft with
  | missing => rfl
  | unloadable e =>
    simp only [settled, Draft.outcome, Draft.tolerated, carriedOut]
    cases h : e.isTolerable <;> simp [counted, Draft.tolerated, h]
  | blank => rfl
  | rejected => rfl
  | accepted script =>
    simp only [settled, delivered, counted, carriedOut]
    rcases (writeScripts [script] (folderFor outputDir mailbox)).onDisk s d with ⟨_ | _, _⟩ <;> rfl

/-- A mapping gives a mailbox and a path, both of them texts. -/
def Names (v : Value) (mailbox path : Text) : Prop :=
  ∃ fs, v = .map fs ∧ Value.find? fs "mailbox".toList = some (.text mailbox) ∧
    Value.find? fs "path".toList = some (.text path)

theorem actsAs_convertMapping {v : Value} {mailbox path : Text} (hv : Names v mailbox path)
    (outputDir encoding : Text) (skipVerify : Bool) :
    ActsAs (convertMapping outputDir skipVerify encoding v) fun s d =>
      carriedOut outputDir mailbox (draftOf path encoding mailbox skipVerify s d) s d := by
  obtain ⟨fs, rfl, hmailbox, hpath⟩ := hv
  have hstart : convertMapping outputDir skipVerify encoding (.map fs) = (do
      if ← reaches path then
        note .info ("[PROCESS] ".toList ++ mailbox)
        let outcome ← orElseNote
          (convertMailbox (.text mailbox) (.text path) outputDir skipVerify encoding) fun m =>
            "[ERROR] Failed to convert ".toList ++ mailbox ++ ": ".toList ++ m
        return outcome.getD .failed
      else
        note .warning
          ("[SKIP] Filter file not found for ".toList ++ mailbox ++ ": ".toList ++ path)
        return .skipped) := by
    simp only [convertMapping, requireKey, hmailbox, hpath]
    rfl
  have hmailbox := actsAs_convertMailbox mailbox path outputDir encoding skipVerify
  rw [hstart]
  refine ((actsAs_reaches path).bind (ActsAs.ite
    ((actsAs_note _ _).bind fun _ => hmailbox.counted _)
    ((actsAs_note _ _).bind fun _ => actsAs_pure Outcome.skipped))).congr fun s d => ?_
  simp only [andThen, draftOf]
  cases found path s d with
  | false => rfl
  | true =>
    simp only [if_true]
    cases (loadFilters path encoding).outcome s d with
    | error e => rfl
    | ok fs => exact counted_settled outputDir mailbox _ s d

/-! ## Mappings of another form -/

theorem reading_mappedPathExists (path : Value) : Reading (mappedPathExists path) := by
  unfold mappedPathExists
  split
  · exact (actsAs_reaches _).reading
  · split
    · exact reading_pure _
    · exact reading_throw _
  · exact reading_pure _
  · exact reading_throw _

theorem reading_loadMapped (path : Value) (encoding : Text) :
    Reading (loadMapped path encoding) := by
  unfold loadMapped
  split
  · exact reading_loadFilters _ _
  · exact reading_throw _

/-- Without the name of a folder nothing is written. -/
theorem reading_convertMailbox_of_not_text {mailbox : Value} (h : ∀ m, mailbox ≠ .text m)
    (path : Value) (outputDir encoding : Text) (skipVerify : Bool) :
    Reading (convertMailbox mailbox path outputDir skipVerify encoding) := by
  have hfolder : mailboxFolder outputDir mailbox = throw .wrongType := by
    cases mailbox with
    | text m => exact absurd rfl (h m)
    | _ => rfl
  have hjudged (script : Sieve.Script) (message : Text) (b : Bool) :
      Reading (if b then do
          let dest ← mailboxFolder outputDir mailbox
          let _ ← writeScripts [script] dest
          return Outcome.converted
        else do
          note .error message
          return Outcome.failed) := by
    cases b with
    | true =>
      rw [hfolder]
      exact reading_throw _
    | false => exact (reading_note _ _).bind fun _ => reading_pure _
  refine (reading_loadMapped path encoding).bind fun fs => ?_
  split
  · exact (reading_note _ _).bind fun _ => reading_pure _
  · refine (reading_convertSet fs _).bind fun script => ?_
    simp only []
    split
    · exact (reading_pure true).bind (hjudged script _)
    · exact (reading_verify fs script).bind (hjudged script _)

theorem reading_convertMailbox_of_path_not_text {path : Value} (h : ∀ p, path ≠ .text p)
    (mailbox : Value) (outputDir encoding : Text) (skipVerify : Bool) :
    Reading (convertMailbox mailbox path outputDir skipVerify encoding) := by
  have hload : loadMapped path encoding = throw .wrongType := by
    cases path with
    | text p => exact absurd rfl (h p)
    | _ => rfl
  unfold convertMailbox
  rw [hload]
  exact reading_throw .wrongType

/-- A mapping changes nothing as long as the work on its mailbox does not. -/
theorem reading_convertMapping_of {fs : Fields} {outputDir encoding : Text} {skipVerify : Bool}
    (h : ∀ mailbox path, Value.find? fs "mailbox".toList = some mailbox →
      Value.find? fs "path".toList = some path →
        Reading (convertMailbox mailbox path outputDir skipVerify encoding)) :
    Reading (convertMapping outputDir skipVerify encoding (.map fs)) := by
  cases hmailbox : Value.find? fs "mailbox".toList with
  | none =>
    simp only [convertMapping, requireKey, hmailbox]
    exact reading_throw _
  | some mailbox =>
    cases hpath : Value.find? fs "path".toList with
    | none =>
      simp only [convertMapping, requireKey, hmailbox, hpath]
      exact reading_throw _
    | some path =>
      simp only [convertMapping, requireKey, hmailbox, hpath]
      refine (reading_mappedPathExists path).bind fun b => ?_
      split
      · exact (reading_note _ _).bind fun _ => ((h mailbox path hmailbox hpath).orElseNote _).bind
          fun _ => reading_pure _
      · exact (reading_note _ _).bind fun _ => reading_pure _

/-- A mapping that does not give two texts changes nothing. -/
theorem reading_convertMapping {v : Value} (h : ∀ mailbox path, ¬ Names v mailbox path)
    (outputDir encoding : Text) (skipVerify : Bool) :
    Reading (convertMapping outputDir skipVerify encoding v) := by
  cases v with
  | map fs =>
    refine reading_convertMapping_of fun mailbox path hmailbox hpath => ?_
    by_cases htext : ∃ m, mailbox = .text m
    · obtain ⟨m, rfl⟩ := htext
      refine reading_convertMailbox_of_path_not_text (fun p hp => ?_) _ _ _ _
      exact h m p ⟨fs, rfl, hmailbox, hp ▸ hpath⟩
    · exact reading_convertMailbox_of_not_text (fun m hm => htext ⟨m, hm⟩) _ _ _ _
  | _ => exact reading_throw _

end Run

end MailFilter
