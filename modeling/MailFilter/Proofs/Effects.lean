import MailFilter.Run.Convert
import Mathlib.Tactic.Basic

/-!
# What runs do to a disk

Runs are built from a few operations by sequencing and by catching failures, and the outcome of
each can be read off step by step. Apart from what they note in the journal, most runs see nothing
of the world but the disk: the disk decides how they end and which disk they leave, and they print
nothing. Such a run acts on disks, and `Run.onDisk` is its action.
-/
namespace MailFilter.Run

variable {α β : Type}

/-! ## Outcomes step by step -/

@[simp] theorem start_pure (a : α) (s : Setting) (w : World) :
    (pure a : Run α).start s w = (.ok a, w) := rfl

@[simp] theorem start_ofExcept (x : Except Failure α) (s : Setting) (w : World) :
    (MonadExcept.ofExcept x : Run α).start s w = (x, w) := by
  cases x <;> rfl

theorem start_bind (x : Run α) (f : α → Run β) (s : Setting) (w : World) :
    (x >>= f).start s w =
      match x.start s w with
      | (.ok a, w') => (f a).start s w'
      | (.error e, w') => (.error e, w') := by
  change ExceptT.bindCont (fun a => f a s) (x.start s w).1 (x.start s w).2 = _
  rcases x.start s w with ⟨_ | a, w'⟩ <;> rfl

theorem start_bind_ok {x : Run α} {f : α → Run β} {s : Setting} {w w' : World} {a : α}
    (h : x.start s w = (.ok a, w')) : (x >>= f).start s w = (f a).start s w' := by
  rw [start_bind, h]

theorem start_bind_error {x : Run α} {f : α → Run β} {s : Setting} {w w' : World} {e : Failure}
    (h : x.start s w = (.error e, w')) : (x >>= f).start s w = (.error e, w') := by
  rw [start_bind, h]

theorem start_tryCatch (x : Run α) (f : Failure → Run α) (s : Setting) (w : World) :
    (tryCatch x f).start s w =
      match x.start s w with
      | (.ok a, w') => (.ok a, w')
      | (.error e, w') => (f e).start s w' := by
  change (ExceptT.tryCatch (x s) fun e => f e s).run.run w = _
  rw [ExceptT.tryCatch, ExceptT.run_mk, StateT.run_bind]
  rcases h : x.start s w with ⟨e | a, w'⟩
  · rw [show StateT.run (x s) w = (.error e, w') from h]
    rfl
  · rw [show StateT.run (x s) w = (.ok a, w') from h]
    rfl

/-- A run that first looks at the world and the setting. -/
@[simp] theorem start_looking (x : World → Setting → Run α) (s : Setting) (w : World) :
    (get >>= fun w' => read >>= fun s' => x w' s').start s w = (x w s).start s w := rfl

/-- A run that first looks at the setting. -/
@[simp] theorem start_reading (x : Setting → Run α) (s : Setting) (w : World) :
    (read >>= x).start s w = (x s).start s w := rfl

@[simp] theorem start_print (text : Text) (s : Setting) (w : World) :
    (print text).start s w =
      if s.isPrintable text then (.ok (), { w with output := w.output ++ text })
      else (.error .unencodable, w) := by
  unfold print
  rw [start_reading]
  split <;> rfl

/-! ## Actions on disks -/

/-- How a run on a disk ends, and the disk after it. -/
def onDisk (run : Run α) (s : Setting) (d : Disk) : Except Failure α × Disk :=
  let r := run.start s ⟨d, 0, [], []⟩
  (r.1, r.2.disk)

/-- Whatever the world is, the run does to its disk what `f` says, and of the rest only the journal
may change. -/
def ActsAs (run : Run α) (f : Setting → Disk → Except Failure α × Disk) : Prop :=
  ∀ s w, ∃ j, run.start s w =
    ((f s w.disk).1, { w with disk := (f s w.disk).2, journal := j })

/-- The run sees and changes nothing but the disk and the journal. -/
def Silent (run : Run α) : Prop := ActsAs run run.onDisk

theorem ActsAs.onDisk_eq {run : Run α} {f : Setting → Disk → Except Failure α × Disk}
    (h : ActsAs run f) : run.onDisk = f := by
  funext s d
  obtain ⟨j, hj⟩ := h s ⟨d, 0, [], []⟩
  rw [onDisk, hj]

theorem ActsAs.silent {run : Run α} {f : Setting → Disk → Except Failure α × Disk}
    (h : ActsAs run f) : Silent run := by
  rw [Silent, h.onDisk_eq]
  exact h

theorem Silent.start_eq {run : Run α} (h : Silent run) (s : Setting) (w : World) :
    (run.start s w).1 = (run.onDisk s w.disk).1 ∧
      (run.start s w).2.disk = (run.onDisk s w.disk).2 ∧ (run.start s w).2.output = w.output := by
  obtain ⟨j, hj⟩ := h s w
  rw [hj]
  exact ⟨rfl, rfl, rfl⟩

theorem ActsAs.congr {run : Run α} {f g : Setting → Disk → Except Failure α × Disk}
    (h : ActsAs run f) (hfg : ∀ s d, f s d = g s d) : ActsAs run g := by
  obtain rfl : f = g := funext fun s => funext fun d => hfg s d
  exact h

theorem actsAs_pure (a : α) : ActsAs (pure a : Run α) fun _ d => (.ok a, d) :=
  fun _ w => ⟨w.journal, rfl⟩

theorem actsAs_throw (e : Failure) : ActsAs (throw e : Run α) fun _ d => (.error e, d) :=
  fun _ w => ⟨w.journal, rfl⟩

theorem actsAs_report (j : Journal) : ActsAs (report j) fun _ d => (.ok (), d) :=
  fun _ w => ⟨w.journal ++ j.atLeast w.threshold, rfl⟩

theorem actsAs_note (level : Level) (text : Text) :
    ActsAs (note level text) fun _ d => (.ok (), d) :=
  actsAs_report _

theorem actsAs_refuse (fault : Option Failure) :
    ActsAs (refuse fault) fun _ d => (fault.elim (.ok ()) .error, d) := by
  cases fault with
  | none => exact actsAs_pure ()
  | some e => exact actsAs_throw e

theorem actsAs_setDisk (d' : Disk) :
    ActsAs (modify fun w => { w with disk := d' }) fun _ _ => (.ok (), d') :=
  fun _ w => ⟨w.journal, rfl⟩

/-- One action after another: the second starts from what the first gives. -/
def andThen (f : Setting → Disk → Except Failure α × Disk)
    (g : α → Setting → Disk → Except Failure β × Disk) :
    Setting → Disk → Except Failure β × Disk := fun s d =>
  match f s d with
  | (.ok a, d') => g a s d'
  | (.error e, d') => (.error e, d')

theorem ActsAs.bind {x : Run α} {y : α → Run β} {f : Setting → Disk → Except Failure α × Disk}
    {g : α → Setting → Disk → Except Failure β × Disk} (hx : ActsAs x f)
    (hy : ∀ a, ActsAs (y a) (g a)) : ActsAs (x >>= y) (andThen f g) := by
  intro s w
  obtain ⟨j, hj⟩ := hx s w
  rw [start_bind, hj, andThen]
  rcases f s w.disk with ⟨e | a, d'⟩
  · exact ⟨j, rfl⟩
  · exact hy a s _

/-- An action with another in the place of its failures. -/
def orElseFrom (f : Setting → Disk → Except Failure α × Disk)
    (g : Failure → Setting → Disk → Except Failure α × Disk) :
    Setting → Disk → Except Failure α × Disk := fun s d =>
  match f s d with
  | (.ok a, d') => (.ok a, d')
  | (.error e, d') => g e s d'

theorem ActsAs.tryCatch {x : Run α} {y : Failure → Run α}
    {f : Setting → Disk → Except Failure α × Disk}
    {g : Failure → Setting → Disk → Except Failure α × Disk} (hx : ActsAs x f)
    (hy : ∀ e, ActsAs (y e) (g e)) : ActsAs (tryCatch x y) (orElseFrom f g) := by
  intro s w
  obtain ⟨j, hj⟩ := hx s w
  rw [start_tryCatch, hj, orElseFrom]
  rcases f s w.disk with ⟨e | a, d'⟩
  · exact hy e s _
  · exact ⟨j, rfl⟩

theorem Silent.bind {x : Run α} {y : α → Run β} (hx : Silent x) (hy : ∀ a, Silent (y a)) :
    Silent (x >>= y) := (ActsAs.bind hx hy).silent

theorem Silent.tryCatch {x : Run α} {y : Failure → Run α} (hx : Silent x)
    (hy : ∀ e, Silent (y e)) : Silent (tryCatch x y) := (ActsAs.tryCatch hx hy).silent

theorem silent_pure (a : α) : Silent (pure a : Run α) := (actsAs_pure a).silent

theorem silent_throw (e : Failure) : Silent (throw e : Run α) := (actsAs_throw e).silent

/-! ## Reading and writing -/

/-- How a run on a disk ends. -/
def outcome (run : Run α) (s : Setting) (d : Disk) : Except Failure α := (run.onDisk s d).1

theorem outcome_of_actsAs {run : Run α} {f : Setting → Disk → Except Failure α × Disk}
    (h : ActsAs run f) (s : Setting) (d : Disk) : run.outcome s d = (f s d).1 := by
  rw [outcome, h.onDisk_eq]

/-- The run is silent and leaves the disk as it finds it. -/
def Reading (run : Run α) : Prop := ActsAs run fun s d => (run.outcome s d, d)

theorem ActsAs.reading {run : Run α} {f : Setting → Disk → Except Failure α}
    (h : ActsAs run fun s d => (f s d, d)) : Reading run := by
  have hf : run.outcome = f := by
    funext s d
    rw [outcome, h.onDisk_eq]
  rw [Reading, hf]
  exact h

theorem Reading.onDisk_eq {run : Run α} (h : Reading run) (s : Setting) (d : Disk) :
    run.onDisk s d = (run.outcome s d, d) := by
  rw [ActsAs.onDisk_eq h]

theorem Reading.silent {run : Run α} (h : Reading run) : Silent run := ActsAs.silent h

theorem reading_pure (a : α) : Reading (pure a : Run α) := (actsAs_pure a).reading

theorem reading_throw (e : Failure) : Reading (throw e : Run α) := (actsAs_throw e).reading

theorem reading_refuse (fault : Option Failure) : Reading (refuse fault) :=
  (actsAs_refuse fault).reading

theorem reading_report (j : Journal) : Reading (report j) := (actsAs_report j).reading

theorem reading_note (level : Level) (text : Text) : Reading (note level text) :=
  (actsAs_note level text).reading

theorem Reading.bind {x : Run α} {y : α → Run β} (hx : Reading x) (hy : ∀ a, Reading (y a)) :
    Reading (x >>= y) := by
  refine ActsAs.reading (f := fun s d => (x.outcome s d).bind fun a => (y a).outcome s d) ?_
  refine (ActsAs.bind hx hy).congr fun s d => ?_
  rw [andThen]
  cases x.outcome s d <;> rfl

theorem Reading.tryCatch {x : Run α} {y : Failure → Run α} (hx : Reading x)
    (hy : ∀ e, Reading (y e)) : Reading (tryCatch x y) := by
  refine ActsAs.reading
    (f := fun s d => (x.outcome s d).tryCatch fun e => (y e).outcome s d) ?_
  refine (ActsAs.tryCatch hx hy).congr fun s d => ?_
  rw [orElseFrom]
  cases x.outcome s d <;> rfl

variable [Platform]

/-- The answer of a disk about a path. -/
def asked (query : Disk → Location → Text → Except DiskFault α) (path : Text) (s : Setting)
    (d : Disk) : Except Failure α :=
  match pathFault? path with
  | some e => .error e
  | none => (query d s.base path).mapError (.disk · path)

theorem actsAs_ask (query : Disk → Location → Text → Except DiskFault α) (path : Text) :
    ActsAs (ask query path) fun s d => (asked query path s d, d) := by
  intro s w
  refine ⟨w.journal, ?_⟩
  unfold ask asked
  cases pathFault? path with
  | some e => rfl
  | none =>
    simp only [refuse]
    rw [start_bind_ok (start_pure () s w), start_looking]
    cases query w.disk s.base path <;> rfl

theorem reading_ask (query : Disk → Location → Text → Except DiskFault α) (path : Text) :
    Reading (ask query path) := (actsAs_ask query path).reading

/-- The path leads somewhere on the disk. -/
def found (path : Text) (s : Setting) (d : Disk) : Bool :=
  (pathFault? path).isNone && (Disk.stat d s.base path).isOk

theorem actsAs_reaches (path : Text) :
    ActsAs (reaches path) fun s d => (.ok (found path s d), d) := by
  intro s w
  refine ⟨w.journal, ?_⟩
  unfold reaches found
  cases pathFault? path with
  | some e => rfl
  | none =>
    simp only [Option.isSome_none, Bool.false_eq_true, if_false, start_looking]
    cases Disk.stat w.disk s.base path <;> rfl

/-- What stands at the end of a path, as far as the disk can follow it. -/
def looked (path : Text) (s : Setting) (d : Disk) : Except Failure (Option Item) :=
  if (pathFault? path).isSome then .ok none
  else
    match Disk.stat d s.base path with
    | .ok item => .ok (some item)
    | .error .notFound => .ok none
    | .error .notFolder => .ok none
    | .error e => .error (.disk e path)

theorem actsAs_look (path : Text) : ActsAs (look path) fun s d => (looked path s d, d) := by
  intro s w
  refine ⟨w.journal, ?_⟩
  unfold look looked
  by_cases h : (pathFault? path).isSome = true
  · simp only [if_pos h]
    rfl
  · simp only [if_neg h, start_looking]
    rcases Disk.stat w.disk s.base path with (_ | _ | _ | _ | _) | item <;> rfl

/-- The disk that an operation gives, or the old one when it fails. -/
def stored (x : Except Failure Disk) (d : Disk) : Except Failure Unit × Disk :=
  match x with
  | .ok d' => (.ok (), d')
  | .error e => (.error e, d)

theorem actsAs_store (query : Disk → Location → Text → Except DiskFault Disk) (path : Text) :
    ActsAs (do let disk ← ask query path; modify fun w => { w with disk })
      fun s d => stored (asked query path s d) d := by
  refine ((actsAs_ask query path).bind fun d' => actsAs_setDisk d').congr fun s d => ?_
  simp only [andThen, stored]
  cases asked query path s d <;> rfl

theorem actsAs_makeFolder (path : Text) :
    ActsAs (makeFolder path) fun s d => stored (asked Disk.makeFolder path s d) d :=
  actsAs_store Disk.makeFolder path

theorem actsAs_writeBytes (path : Text) (bytes : List UInt8) :
    ActsAs (writeBytes path bytes) fun s d =>
      stored (asked (fun d base p => Disk.write d base p bytes) path s d) d :=
  actsAs_store _ path

end MailFilter.Run
