import MailFilter.Proofs.Commands
import MailFilter.Proofs.Records

/-!
# Loading the configuration

The settings of a run are those of the environment over those of a configuration file over the
defaults. A file that is missing, is a folder, breaks the format or holds no mapping counts as an
absent one. Loading fails all the same in a few cases, and these are all: the search leads to the
home of somebody unknown, a path is too long to be looked up, the document has a fault that is none
of its form, or a setting cannot be shown.
-/
namespace MailFilter

namespace Disk

/-- The faults that a path can have on the way. -/
theorem walk_error {d : Disk} {loc : Location} {ss : List Step} {f : DiskFault}
    (h : walk d loc ss = .error f) : f = .notFound ∨ f = .notFolder ∨ f = .nameTooLong := by
  fun_induction walk d loc ss <;> simp_all

theorem stat_error {d : Disk} {base : Location} {path : Text} {f : DiskFault}
    (h : stat d base path = .error f) : f = .notFound ∨ f = .notFolder ∨ f = .nameTooLong := by
  unfold stat follow at h
  split at h
  next e he =>
    obtain rfl := Except.error.inj h
    split at he
    · exact .inl (Except.error.inj he).symm
    · split at he
      · exact .inr (.inr (Except.error.inj he).symm)
      · exact walk_error he
  next l hl =>
    split at h
    · cases h
    · exact .inl (Except.error.inj h).symm

end Disk

namespace Run

variable {α β : Type}

/-- The run leaves the disk as it finds it and ends as `f` says. -/
def Answers (run : Run α) (f : Setting → Disk → Except Failure α) : Prop :=
  ActsAs run fun s d => (f s d, d)

theorem Answers.start_eq {run : Run α} {f : Setting → Disk → Except Failure α}
    (h : Answers run f) (s : Setting) (w : World) : (run.start s w).1 = f s w.disk := by
  obtain ⟨j, hj⟩ := h s w
  rw [hj]

theorem Answers.congr {run : Run α} {f g : Setting → Disk → Except Failure α} (h : Answers run f)
    (hfg : ∀ s d, f s d = g s d) : Answers run g :=
  ActsAs.congr h fun s d => by rw [hfg s d]

theorem answers_pure (a : α) : Answers (pure a : Run α) fun _ _ => .ok a := actsAs_pure a

theorem answers_throw (e : Failure) : Answers (throw e : Run α) fun _ _ => .error e :=
  actsAs_throw e

theorem answers_ofExcept (x : Except Failure α) :
    Answers (MonadExcept.ofExcept x : Run α) fun _ _ => x := by
  cases x with
  | ok a => exact answers_pure a
  | error e => exact answers_throw e

theorem Answers.bind {x : Run α} {y : α → Run β} {f : Setting → Disk → Except Failure α}
    {g : α → Setting → Disk → Except Failure β} (hx : Answers x f) (hy : ∀ a, Answers (y a) (g a)) :
    Answers (x >>= y) fun s d => (f s d).bind fun a => g a s d := by
  refine (ActsAs.bind hx hy).congr fun s d => ?_
  simp only [andThen]
  cases f s d <;> rfl

/-- A run that first looks at the setting. -/
theorem answers_withSetting {x : Setting → Run α} {f : Setting → Setting → Disk → Except Failure α}
    (h : ∀ s, Answers (x s) (f s)) : Answers (read >>= x) fun s d => f s s d :=
  fun s w => h s s w

theorem answers_noted (level : Level) (text : Text) (a : α) :
    Answers (note level text >>= fun _ => pure a) fun _ _ => .ok a :=
  Answers.bind (f := fun _ _ => .ok ()) (actsAs_note level text) fun _ => answers_pure a

/-- The run fails with failures of one kind only. -/
def FailsOnly (P : Failure → Prop) (run : Run α) : Prop :=
  ∀ s w e, (run.start s w).1 = .error e → P e

theorem failsOnly_pure {P : Failure → Prop} (a : α) : FailsOnly P (pure a : Run α) :=
  fun _ _ _ h => nomatch h

theorem failsOnly_withSetting {P : Failure → Prop} {x : Setting → Run α}
    (h : ∀ s, FailsOnly P (x s)) : FailsOnly P (read >>= x) :=
  fun s w e he => h s s w e he

theorem Answers.failsOnly {P : Failure → Prop} {run : Run α}
    {f : Setting → Disk → Except Failure α} (h : Answers run f)
    (hf : ∀ s d e, f s d = .error e → P e) : FailsOnly P run :=
  fun s w e he => hf s w.disk e (h.start_eq s w ▸ he)

theorem FailsOnly.bind {P : Failure → Prop} {x : Run α} {y : α → Run β} (hx : FailsOnly P x)
    (hy : ∀ a, FailsOnly P (y a)) : FailsOnly P (x >>= y) := by
  intro s w e h
  rw [start_bind] at h
  rcases hfirst : x.start s w with ⟨e' | a, w'⟩
  · rw [hfirst] at h
    obtain rfl : e' = e := Except.error.inj h
    exact hx s w e' (by rw [hfirst])
  · rw [hfirst] at h
    exact hy a s w' e h

variable [Platform]

theorem answers_look (path : Text) : Answers (look path) (looked path) := actsAs_look path

/-- Only a path that is too long cannot be looked up. -/
theorem looked_error {path : Text} {s : Setting} {d : Disk} {e : Failure}
    (h : looked path s d = .error e) : e = .disk .nameTooLong path := by
  unfold looked at h
  split at h
  · cases h
  · split at h
    · cases h
    · cases h
    · cases h
    next f hfound hfolder hf =>
      rcases Disk.stat_error hf with rfl | rfl | rfl
      · exact absurd rfl hfound
      · exact absurd rfl hfolder
      · exact (Except.error.inj h).symm

end Run

namespace Config

open Run

/-! ## The environment -/

/-- The value of a variable that is set and not empty. -/
def variableOf (s : Setting) (name : Text) : Option Text :=
  (s.environment.lookup name).filter (!·.isEmpty)

theorem answers_setting? (name : Text) :
    Answers (setting? name) fun s _ => .ok (variableOf s name) := by
  refine answers_withSetting (f := fun s _ _ => .ok (variableOf s name)) fun s => ?_
  unfold variableOf
  split
  next v hv => simpa [hv, Option.filter] using answers_pure (if v.isEmpty then none else some v)
  next hnone => simpa [hnone] using answers_pure (α := Option Text) none

/-- The settings with those of the environment over them. -/
def overlaid (c : Config) (start : Text) (s : Setting) : Config where
  logLevel := ((variableOf s (start ++ "LOG_LEVEL".toList)).map Text.upper).getD c.logLevel
  outputDir := (variableOf s (start ++ "OUTPUT_DIR".toList)).getD c.outputDir
  encoding := (variableOf s (start ++ "ENCODING".toList)).getD c.encoding
  verify := ((variableOf s (start ++ "VERIFY".toList)).map isYesWord).getD c.verify

theorem answers_withVariables (c : Config) (start : Text) :
    Answers (c.withVariables start) fun s _ => .ok (c.overlaid start s) :=
  (answers_setting? _).bind fun _ => (answers_setting? _).bind fun _ =>
    (answers_setting? _).bind fun _ => (answers_setting? _).bind fun _ => answers_pure _

/-! ## Fields of documents -/

/-- The fields that a document gives. One of the wrong form gives none. -/
def fieldsOf : Except Yaml.Fault Value → Except Failure Fields
  | .error .invalid => .ok []
  | .error f => .error (.document f)
  | .ok v => .ok (v.fields?.getD [])

/-- The fields that what stands at a place gives. -/
def fieldsIn [Platform] : Option Item → Except Failure Fields
  | some (.file bytes) => fieldsOf (Yaml.readBytes bytes)
  | _ => .ok []

theorem getD_fields?_of_isBlank {v : Value} (h : v.isBlank = true) : v.fields?.getD [] = [] := by
  cases v with
  | map pairs =>
    obtain rfl : pairs = [] := by simpa [Value.isBlank] using h
    rfl
  | marked k v =>
    cases v with
    | map pairs =>
      obtain rfl : pairs = [] := by simpa [Value.isBlank] using h
      rfl
    | marked j u =>
      cases hmark : j == k <;> simp [Value.fields?, Value.unfold, Value.fill, hmark]
    | again j shape => cases h
    | _ => rfl
  | _ => rfl

/-- The fields of a file whose contents are there or not. -/
def fieldsFrom [Platform] : Option (List UInt8) → Except Failure Fields
  | some bytes => fieldsOf (Yaml.readBytes bytes)
  | none => .ok []

theorem fieldsOf_error {f : Yaml.Fault} (h : f ≠ .invalid) :
    fieldsOf (.error f) = .error (.document f) := by
  cases f with
  | invalid => exact absurd rfl h
  | _ => rfl

/-- The values that are read as settings. -/
def settingTexts (fs : Fields) : List Value :=
  ["log_level".toList, "output_dir".toList, "encoding".toList, "verify".toList].flatMap
    fun key => (Value.find? fs key).toList

/-! ## The search -/

/-- What can go wrong while a configuration file is sought: the home of somebody unknown, or a path
that is too long. -/
def IsSearchFault (e : Failure) : Prop := e = .unknownHome ∨ ∃ path, e = .disk .nameTooLong path

theorem failsOnly_expandHome (p : Path) : FailsOnly IsSearchFault (expandHome p) := by
  unfold expandHome
  split
  · split
    · refine failsOnly_withSetting fun s => ?_
      split
      · exact failsOnly_pure _
      · exact (answers_throw _).failsOnly fun _ _ e h => .inl (Except.error.inj h).symm
    · exact failsOnly_pure p
  · exact failsOnly_pure p

section

variable [Platform]

theorem failsOnly_look (path : Text) : FailsOnly IsSearchFault (look path) :=
  (answers_look path).failsOnly fun _ _ _ h => .inr ⟨path, looked_error h⟩

theorem failsOnly_firstFound (ps : List Path) : FailsOnly IsSearchFault (firstFound ps) := by
  induction ps with
  | nil => exact failsOnly_pure none
  | cons p ps ih =>
    refine (failsOnly_look p.text).bind fun item => ?_
    split
    · exact failsOnly_pure _
    · exact ih

theorem failsOnly_findFile : FailsOnly IsSearchFault findFile := by
  have hrest (named : List Path) :
      FailsOnly IsSearchFault (do firstFound (named ++ (← defaultPaths))) :=
    ((failsOnly_expandHome _).bind fun _ => failsOnly_pure _).bind fun _ => failsOnly_firstFound _
  refine ((answers_setting? _).failsOnly fun _ _ _ h => nomatch h).bind fun named => ?_
  cases named with
  | some p => exact (failsOnly_expandHome _).bind fun _ => (failsOnly_pure _).bind hrest
  | none => exact (failsOnly_pure []).bind hrest

/-- The configuration file: the one that is given, or the one that the search finds. -/
def chosen : Option Path → Setting → Disk → Except Failure (Option Path)
  | some p, _, _ => .ok (some p)
  | none, s, d => findFile.outcome s d

theorem chosen_error {path : Option Path} {s : Setting} {d : Disk} {e : Failure}
    (h : chosen path s d = .error e) : IsSearchFault e := by
  cases path with
  | some p => cases h
  | none =>
    refine failsOnly_findFile s ⟨d, 0, [], []⟩ e ?_
    rw [(reading_findFile.silent.start_eq s ⟨d, 0, [], []⟩).1]
    exact h

/-! ## The file -/

/-- The contents of a file, or nothing when the disk does not give them. -/
def contentsAt (path : Text) (s : Setting) (d : Disk) : Except Failure (Option (List UInt8)) :=
  match asked Disk.read path s d with
  | .ok bytes => .ok (some bytes)
  | .error (.disk _ _) => .ok none
  | .error e => .error e

theorem answers_contents (path : Text) :
    Answers (tryCatch (some <$> Run.readBytes path) fun failure =>
      match failure with
      | .disk _ _ => pure none
      | _ => throw failure) (contentsAt path) := by
  have hread : Answers (some <$> Run.readBytes path) fun s d =>
      (asked Disk.read path s d).bind fun bytes => .ok (some bytes) := by
    rw [map_eq_pure_bind]
    exact Answers.bind (actsAs_ask Disk.read path) fun bytes => answers_pure (some bytes)
  have hcatch (e : Failure) : Answers (match e with
      | .disk _ _ => pure none
      | _ => throw e : Run (Option (List UInt8))) fun _ _ =>
        match e with
        | .disk _ _ => .ok none
        | _ => .error e := by
    cases e with
    | disk f p => exact answers_pure none
    | _ => exact answers_throw _
  refine (ActsAs.tryCatch hread hcatch).congr fun s d => ?_
  simp only [orElseFrom, contentsAt]
  rcases asked Disk.read path s d with e | bytes
  · cases e <;> rfl
  · rfl

theorem contentsAt_of_looked {path : Text} {s : Setting} {d : Disk} {item : Item}
    (h : looked path s d = .ok (some item)) :
    (contentsAt path s d).bind fieldsFrom = fieldsIn (some item) := by
  unfold looked at h
  unfold contentsAt asked
  split at h
  · cases h
  next hgood =>
    have hnone : pathFault? path = none := by simpa using hgood
    have hstat : Disk.stat d s.base path = .ok item := by
      split at h
      next i hi => rw [hi, Option.some.inj (Except.ok.inj h)]
      all_goals cases h
    rw [hnone, Disk.read, hstat]
    cases item <;> rfl

theorem answers_readFields (path : Text) :
    Answers (readFields path) fun s d => (looked path s d).bind fieldsIn := by
  refine ((answers_look path).bind (g := fun item s d =>
    if item.isSome then (contentsAt path s d).bind fieldsFrom else .ok []) fun item => ?_).congr
      fun s d => ?_
  · cases item with
    | none => exact answers_pure []
    | some item =>
      refine (answers_contents path).bind (g := fun bytes _ _ => fieldsFrom bytes) fun bytes => ?_
      cases bytes with
      | none => exact answers_noted _ _ _
      | some bytes =>
        rw [Option.map_some, fieldsFrom]
        generalize Yaml.readBytes bytes = document
        rcases document with f | v
        · cases f with
          | invalid => exact answers_noted _ _ _
          | _ => exact answers_throw _
        · by_cases hblank : v.isBlank = true
          · simp only [fieldsOf, if_pos hblank, getD_fields?_of_isBlank hblank]
            exact answers_noted _ _ _
          · simp only [fieldsOf, if_neg hblank]
            cases v.fields? <;> exact answers_noted _ _ _
  · cases hlooked : looked path s d with
    | error e => rfl
    | ok item =>
      cases item with
      | none => rfl
      | some item => exact contentsAt_of_looked hlooked

/-! ## Settings from fields -/

theorem shows_isYes (v : Value) : Record.Shows (isYes v) [v] := by
  unfold isYes
  split
  · exact Record.shows_of_none _ rfl
  · exact (Record.shows_textOf v).map _

theorem shows_fieldOr {α : Type} (setting : α) {read : Value → Except Failure α}
    (hread : ∀ v, Record.Shows (read v) [v]) (fs : Fields) (key : Text) :
    Record.Shows (fieldOr setting read fs key) (Value.find? fs key).toList := by
  unfold fieldOr
  cases Value.find? fs key with
  | some v => exact hread v
  | none => exact Record.shows_ok setting

theorem shows_withFields (c : Config) (fs : Fields) :
    Record.Shows (c.withFields fs) (settingTexts fs) :=
  (shows_fieldOr _ (fun v => (Record.shows_textOf v).map _) fs _).bind fun _ =>
    (shows_fieldOr _ Record.shows_textOf fs _).bind fun _ =>
      (shows_fieldOr _ Record.shows_textOf fs _).bind fun _ =>
        (shows_fieldOr _ shows_isYes fs _).bind fun _ => Record.shows_ok _

/-! ## Loading -/

/-- The fields of the chosen file. -/
def fieldsAt : Option Path → Setting → Disk → Except Failure Fields
  | some p, s, d => (looked p.text s d).bind fieldsIn
  | none, _, _ => .ok []

/-- The settings that come of the fields of a file and the environment. -/
def settled (start : Text) (s : Setting) (given : Except Failure Fields) : Except Failure Config :=
  given.bind fun fs => (({} : Config).withFields fs).bind fun c => .ok (c.overlaid start s)

theorem answers_load (path : Option Path) (start : Text) :
    Answers (load path start) fun s d =>
      (chosen path s d).bind fun file => settled start s (fieldsAt file s d) := by
  have hsettings (fs : Fields) : Answers (do
      let config ← MonadExcept.ofExcept (({} : Config).withFields fs)
      config.withVariables start) fun s _ =>
        (({} : Config).withFields fs).bind fun c => .ok (c.overlaid start s) :=
    (answers_ofExcept _).bind fun c => answers_withVariables c start
  cases path with
  | some p => exact (answers_readFields p.text).bind hsettings
  | none =>
    refine Answers.bind (g := fun file s d => settled start s (fieldsAt file s d)) reading_findFile
      fun file => ?_
    cases file with
    | some p => exact (answers_readFields p.text).bind hsettings
    | none => exact (answers_pure []).bind hsettings

section Outcome

variable (path : Option Path) (s : Setting) (d : Disk)

/-- The chosen file can be read as a mapping with the given fields. -/
def HoldsMapping (fs : Fields) : Prop :=
  ∃ p bytes v, chosen path s d = .ok (some p) ∧ looked p.text s d = .ok (some (.file bytes)) ∧
    Yaml.readBytes bytes = .ok v ∧ v.fields? = some fs

/-- All that keeps a configuration from being loaded. -/
inductive Stops : Failure → Prop
  | search {e : Failure} : chosen path s d = .error e → Stops e
  | lookup {p : Path} {e : Failure} : chosen path s d = .ok (some p) →
      looked p.text s d = .error e → Stops e
  | document {p : Path} {bytes : List UInt8} {f : Yaml.Fault} :
      chosen path s d = .ok (some p) → looked p.text s d = .ok (some (.file bytes)) →
      Yaml.readBytes bytes = .error f → f ≠ .invalid → Stops (.document f)
  | setting {fs : Fields} {o : Value.Obstacle} : HoldsMapping path s d fs →
      (settingTexts fs).findSome? Value.obstacle? = some o → Stops o.failure

/-- What the search for fields can come to: those of a mapping, none, or a failure. -/
inductive Given : Except Failure Fields → Prop
  | mapping {fs : Fields} : HoldsMapping path s d fs → Given (.ok fs)
  | nothing : (∀ fs, ¬HoldsMapping path s d fs) → Given (.ok [])
  | failure {e : Failure} : Stops path s d e → Given (.error e)

/-- The fields that the configuration file gives, wherever it is. -/
def fieldsGiven : Except Failure Fields := (chosen path s d).bind fun file => fieldsAt file s d

variable {path s d}

theorem fieldsGiven_of_chosen {p : Path} (h : chosen path s d = .ok (some p)) :
    fieldsGiven path s d = (looked p.text s d).bind fieldsIn := by
  rw [fieldsGiven, h, Except.bind, fieldsAt]

theorem fieldsGiven_of_file {p : Path} {bytes : List UInt8}
    (hchosen : chosen path s d = .ok (some p))
    (hlooked : looked p.text s d = .ok (some (.file bytes))) :
    fieldsGiven path s d = fieldsOf (Yaml.readBytes bytes) := by
  rw [fieldsGiven_of_chosen hchosen, hlooked, Except.bind, fieldsIn]

theorem HoldsMapping.fieldsGiven_eq {fs : Fields} (h : HoldsMapping path s d fs) :
    fieldsGiven path s d = .ok fs := by
  obtain ⟨p, bytes, v, hchosen, hlooked, hread, hfields⟩ := h
  rw [fieldsGiven_of_file hchosen hlooked, hread, fieldsOf, hfields, Option.getD_some]

/-- A file that can be read as a mapping gives its fields, and any other gives none or stops the
loading. -/
theorem given_fieldsGiven : Given path s d (fieldsGiven path s d) := by
  by_cases hholds : ∃ fs, HoldsMapping path s d fs
  · obtain ⟨fs, hfs⟩ := hholds
    rw [hfs.fieldsGiven_eq]
    exact .mapping hfs
  · rw [not_exists] at hholds
    rcases hchosen : chosen path s d with e | _ | p
    · rw [fieldsGiven, hchosen]
      exact .failure (.search hchosen)
    · rw [fieldsGiven, hchosen]
      exact .nothing hholds
    · rw [fieldsGiven_of_chosen hchosen]
      rcases hlooked : looked p.text s d with e | _ | bytes | _
      · exact .failure (.lookup hchosen hlooked)
      · exact .nothing hholds
      · change Given path s d (fieldsOf (Yaml.readBytes bytes))
        rcases hread : Yaml.readBytes bytes with f | v
        · by_cases hf : f = .invalid
          · rw [hf]
            exact .nothing hholds
          · rw [fieldsOf_error hf]
            exact .failure (.document hchosen hlooked hread hf)
        · cases hfields : v.fields? with
          | none =>
            rw [fieldsOf, hfields]
            exact .nothing hholds
          | some fs => exact absurd ⟨p, bytes, v, hchosen, hlooked, hread, hfields⟩ (hholds fs)
      · exact .nothing hholds

theorem Stops.kind {e : Failure} (h : Stops path s d e) :
    IsSearchFault e ∨ (∃ f, f ≠ .invalid ∧ e = .document f) ∨
      ∃ o : Value.Obstacle, e = o.failure := by
  cases h with
  | search hchosen => exact .inl (chosen_error hchosen)
  | lookup _ hlooked => exact .inl (.inr ⟨_, looked_error hlooked⟩)
  | document _ _ _ hf => exact .inr (.inl ⟨_, hf, rfl⟩)
  | @setting _ o _ _ => exact .inr (.inr ⟨o, rfl⟩)

theorem load_eq_settled (path : Option Path) (start : Text) (s : Setting) (w : World) :
    ((load path start).start s w).1 = settled start s (fieldsGiven path s w.disk) := by
  rw [(answers_load path start).start_eq, fieldsGiven]
  cases chosen path s w.disk <;> rfl

/-- Without fields the settings are those of the environment over the defaults. -/
@[simp] theorem settled_nil (start : Text) (s : Setting) :
    settled start s (.ok []) = .ok (({} : Config).overlaid start s) := rfl

theorem fieldsGiven_of_unmapped (hnone : ∀ fs, ¬HoldsMapping path s d fs)
    (hgoes : ∀ e, ¬Stops path s d e) : fieldsGiven path s d = .ok [] := by
  have hgiven : Given path s d (fieldsGiven path s d) := given_fieldsGiven
  generalize fieldsGiven path s d = given at hgiven
  cases hgiven with
  | mapping hfs => exact absurd hfs (hnone _)
  | nothing _ => rfl
  | failure hstops => exact absurd hstops (hgoes _)

theorem fieldsGiven_of_absent {p : Path} (h : looked p.text s d = .ok none) :
    fieldsGiven (some p) s d = .ok [] := by
  rw [fieldsGiven_of_chosen rfl, h]
  rfl

theorem Stops.of_settled {start : Text} {e : Failure}
    (h : settled start s (fieldsGiven path s d) = .error e) : Stops path s d e := by
  have hgiven : Given path s d (fieldsGiven path s d) := given_fieldsGiven
  generalize fieldsGiven path s d = given at h hgiven
  cases hgiven with
  | @mapping fs hfs =>
    cases hset : ({} : Config).withFields fs with
    | ok c =>
      rw [settled, Except.bind, hset] at h
      cases h
    | error e' =>
      rw [settled, Except.bind, hset] at h
      obtain rfl : e' = e := Except.error.inj h
      obtain ⟨o, ho, rfl⟩ := (shows_withFields {} fs).exists_obstacle hset
      exact .setting hfs ho
  | nothing _ => cases h
  | @failure e' hstops =>
    obtain rfl : e' = e := Except.error.inj h
    exact hstops

theorem Stops.settled_eq {e : Failure} (h : Stops path s d e) (start : Text) :
    settled start s (fieldsGiven path s d) = .error e := by
  cases h with
  | search hchosen =>
    rw [fieldsGiven, hchosen]
    rfl
  | lookup hchosen hlooked =>
    rw [fieldsGiven_of_chosen hchosen, hlooked]
    rfl
  | document hchosen hlooked hread hf =>
    rw [fieldsGiven_of_file hchosen hlooked, hread, fieldsOf_error hf]
    rfl
  | setting hfs ho =>
    rw [hfs.fieldsGiven_eq, settled, Except.bind, (shows_withFields {} _).error_of_some _ ho]
    rfl

end Outcome

/-- Loading fails exactly when one of the causes stops it. Otherwise it gives settings: those of the
environment over the fields of the file over the defaults when the file can be read as a mapping,
and else the settings that any absent file gives. -/
theorem load_error_iff_and_absent (path : Option Path) (start : Text) (s : Setting) (w : World) :
    let result := ((load path start).start s w).1
    (∀ e, result = .error e ↔ Stops path s w.disk e) ∧
    (∀ e, Stops path s w.disk e →
      IsSearchFault e ∨ (∃ f, f ≠ .invalid ∧ e = .document f) ∨
        ∃ o : Value.Obstacle, e = o.failure) ∧
    ((∀ e, ¬Stops path s w.disk e) → ∃ c, result = .ok c ∧
      ((∀ fs, ¬HoldsMapping path s w.disk fs) →
        c = ({} : Config).overlaid start s ∧
        ∀ p, looked p.text s w.disk = .ok none → ((load (some p) start).start s w).1 = .ok c) ∧
      ∀ fs, HoldsMapping path s w.disk fs →
        ∃ c', ({} : Config).withFields fs = .ok c' ∧ c = c'.overlaid start s) := by
  intro result
  have hresult : result = settled start s (fieldsGiven path s w.disk) :=
    load_eq_settled path start s w
  refine ⟨fun e => ?_, fun e he => he.kind, fun hgoes => ?_⟩
  · rw [hresult]
    exact ⟨Stops.of_settled, fun he => he.settled_eq start⟩
  · cases hsettled : settled start s (fieldsGiven path s w.disk) with
    | error e => exact absurd (Stops.of_settled hsettled) (hgoes e)
    | ok c =>
      refine ⟨c, hresult.trans hsettled, fun hnone => ?_, fun fs hfs => ?_⟩
      · rw [fieldsGiven_of_unmapped hnone hgoes, settled_nil] at hsettled
        refine ⟨(Except.ok.inj hsettled).symm, fun p hp => ?_⟩
        rw [load_eq_settled, fieldsGiven_of_absent hp, settled_nil, hsettled]
      · rw [hfs.fieldsGiven_eq, settled, Except.bind] at hsettled
        cases hset : ({} : Config).withFields fs with
        | error e =>
          rw [hset] at hsettled
          cases hsettled
        | ok c' =>
          rw [hset] at hsettled
          exact ⟨c', rfl, (Except.ok.inj hsettled).symm⟩

end

open scoped Platform

/-- A disk with two configuration files: one stops in the middle, the other one is no text. -/
def brokenDisk : Disk :=
  ⟨[(["cut.yaml".toList], .file (Text.Utf8.encode "log_level: [".toList)),
    (["raw.yaml".toList], .file [0xFF])]⟩

def cutFile : Path := ⟨[], ["cut.yaml".toList]⟩

def rawFile : Path := ⟨[], ["raw.yaml".toList]⟩

def noFile : Path := ⟨[], ["no.yaml".toList]⟩

/-- A setting with a folder for the output. -/
def withOutputDir : Setting where
  base := []
  home := "/".toList
  environment := [("EXIM2SIEVE_OUTPUT_DIR".toList, "/srv".toList)]

theorem not_holdsMapping_cutFile {fs : Fields} :
    ¬HoldsMapping (some cutFile) withOutputDir brokenDisk fs := by
  rintro ⟨p, bytes, v, hchosen, hlooked, hread, -⟩
  obtain rfl := Option.some.inj (Except.ok.inj hchosen)
  have hcut : looked cutFile.text withOutputDir brokenDisk =
      .ok (some (.file (Text.Utf8.encode "log_level: [".toList))) := by decide +kernel
  have hbroken : (Yaml.readBytes (Text.Utf8.encode "log_level: [".toList)).isOk = false := by
    decide +kernel
  obtain rfl : Text.Utf8.encode "log_level: [".toList = bytes := by
    simpa using hcut.symm.trans hlooked
  rw [hread] at hbroken
  cases hbroken

theorem load_cutFile :
    let world : World := ⟨brokenDisk, 0, [], []⟩
    ((load (some cutFile) variableStart).start withOutputDir world).1 =
        .ok { outputDir := "/srv".toList } ∧
      ((load (some noFile) variableStart).start withOutputDir world).1 =
        ((load (some cutFile) variableStart).start withOutputDir world).1 := by
  intro world
  have hload : ((load (some cutFile) variableStart).start withOutputDir world).1 =
      .ok { outputDir := "/srv".toList } := by decide +kernel
  obtain ⟨hstops, -, hloads⟩ :=
    load_error_iff_and_absent (some cutFile) variableStart withOutputDir world
  have hgoes (e : Failure) : ¬Stops (some cutFile) withOutputDir brokenDisk e := by
    intro he
    have herror := (hstops e).2 he
    rw [hload] at herror
    cases herror
  obtain ⟨c, hc, habsent, -⟩ := hloads hgoes
  obtain ⟨-, hsame⟩ := habsent fun fs => not_holdsMapping_cutFile
  have hnoFile : looked noFile.text withOutputDir brokenDisk = .ok none := by decide +kernel
  exact ⟨hload, (hsame noFile hnoFile).trans hc.symm⟩

/-- A file that is no text is not ignored: the loading fails. -/
theorem load_rawFile :
    ((load (some rawFile) variableStart).start withOutputDir ⟨brokenDisk, 0, [], []⟩).1 =
      .error (.document .undecodable) := by
  decide +kernel

end Config

end MailFilter
