import MailFilter.Proofs.Batches

/-!
# Commands step by step

A command reads its command line and its configuration and then does its work. Up to that point it
changes neither the disk nor the output, unless it is asked for help. What the command for one file
does then is decided by the draft of its file; the command for a batch reads a list of mappings and
carries them out.
-/
namespace MailFilter

namespace Run

variable {α β : Type}

theorem reading_ofExcept (x : Except Failure α) : Reading (MonadExcept.ofExcept x : Run α) := by
  cases x with
  | ok a => exact reading_pure a
  | error e => exact reading_throw e

/-- A run that first looks at the setting. -/
theorem reading_withSetting {x : Setting → Run α} (h : ∀ s, Reading (x s)) :
    Reading (read >>= x) :=
  fun s w => h s s w

end Run

/-! ## Reading the configuration -/

namespace Config

open Run

theorem reading_expandHome (p : Path) : Reading (expandHome p) := by
  unfold expandHome
  split
  · split
    · refine reading_withSetting fun s => ?_
      split
      · exact reading_pure _
      · exact reading_throw _
    · exact reading_pure p
  · exact reading_pure p

theorem reading_defaultPaths : Reading defaultPaths :=
  (reading_expandHome _).bind fun _ => reading_pure _

theorem reading_setting? (name : Text) : Reading (setting? name) := by
  refine reading_withSetting fun s => ?_
  split
  · exact reading_pure _
  · exact reading_pure none

theorem reading_withVariables (c : Config) (start : Text) : Reading (c.withVariables start) :=
  (reading_setting? _).bind fun _ => (reading_setting? _).bind fun _ =>
    (reading_setting? _).bind fun _ => (reading_setting? _).bind fun _ => reading_pure _

variable [Platform]

theorem reading_firstFound (ps : List Path) : Reading (firstFound ps) := by
  induction ps with
  | nil => exact reading_pure none
  | cons p ps ih =>
    refine (actsAs_look p.text).reading.bind fun item => ?_
    split
    · exact reading_pure _
    · exact ih

theorem reading_findFile : Reading findFile := by
  have hrest (named : List Path) : Reading (do firstFound (named ++ (← defaultPaths))) :=
    reading_defaultPaths.bind fun _ => reading_firstFound _
  refine (reading_setting? _).bind fun named => ?_
  cases named with
  | some p => exact (reading_expandHome _).bind fun _ => (reading_pure _).bind hrest
  | none => exact (reading_pure []).bind hrest

theorem reading_readFields (path : Text) : Reading (readFields path) := by
  refine (actsAs_look path).reading.bind fun item => ?_
  split
  · exact reading_pure []
  · refine Reading.bind (Reading.tryCatch ?_ fun e => ?_) fun bytes => ?_
    · rw [map_eq_pure_bind]
      exact (reading_readBytes path).bind fun _ => reading_pure _
    · split
      · exact reading_pure none
      · exact reading_throw e
    · split
      · exact (reading_note _ _).bind fun _ => reading_pure []
      · exact (reading_note _ _).bind fun _ => reading_pure []
      · exact reading_throw _
      · split
        · exact (reading_note _ _).bind fun _ => reading_pure _
        · exact (reading_note _ _).bind fun _ => reading_pure []

theorem reading_load (path : Option Path) (start : Text) : Reading (load path start) := by
  have hfields (fields : Fields) : Reading (do
      let config ← MonadExcept.ofExcept (({} : Config).withFields fields)
      config.withVariables start) :=
    (reading_ofExcept _).bind fun config => reading_withVariables config start
  cases path with
  | some p =>
    refine (reading_pure (some p)).bind fun found => ?_
    cases found with
    | some q => exact (reading_readFields q.text).bind hfields
    | none => exact (reading_pure []).bind hfields
  | none =>
    refine reading_findFile.bind fun found => ?_
    cases found with
    | some q => exact (reading_readFields q.text).bind hfields
    | none => exact (reading_pure []).bind hfields

end Config

namespace Run

variable {α β : Type}

/-- The run changes neither the disk nor the output. -/
def Keeps (run : Run α) : Prop :=
  ∀ s w, (run.start s w).2.disk = w.disk ∧ (run.start s w).2.output = w.output

theorem Reading.keeps {run : Run α} (h : Reading run) : Keeps run := by
  intro s w
  obtain ⟨j, hj⟩ := h s w
  rw [hj]
  exact ⟨rfl, rfl⟩

theorem Keeps.bind {x : Run α} {y : α → Run β} (hx : Keeps x) (hy : ∀ a, Keeps (y a)) :
    Keeps (x >>= y) := by
  intro s w
  have hfirst := hx s w
  rw [start_bind]
  rcases hstart : x.start s w with ⟨e | a, w'⟩
  · rwa [hstart] at hfirst
  · rw [hstart] at hfirst
    exact ⟨(hy a s w').1.trans hfirst.1, (hy a s w').2.trans hfirst.2⟩

/-- The run ends so and leaves such a world, apart from the journal. -/
def EndsAs (run : Run α) (s : Setting) (w : World) (r : Except Failure α × World) : Prop :=
  ∃ j, run.start s w = (r.1, { r.2 with journal := j })

/-- A run that does not get past its first step. -/
theorem ActsAs.endsAs_bind_error {x : Run α} {f : Setting → Disk → Except Failure α}
    (hx : ActsAs x fun s d => (f s d, d)) {s : Setting} {w : World} {e : Failure}
    (h : f s w.disk = .error e) (y : α → Run β) : EndsAs (x >>= y) s w (.error e, w) := by
  obtain ⟨j, hj⟩ := hx s w
  simp only [h] at hj
  exact ⟨j, start_bind_error hj⟩

theorem ActsAs.endsAs_bind_ok {x : Run α} {f : Setting → Disk → Except Failure α}
    (hx : ActsAs x fun s d => (f s d, d)) {s : Setting} {w : World} {a : α}
    (h : f s w.disk = .ok a) {y : α → Run β} {r : Except Failure β × World}
    (hy : ∀ j, EndsAs (y a) s { w with journal := j } r) : EndsAs (x >>= y) s w r := by
  obtain ⟨j, hj⟩ := hx s w
  simp only [h] at hj
  obtain ⟨j', hj'⟩ := hy j
  exact ⟨j', (start_bind_ok hj).trans hj'⟩

variable [Platform]

/-! ## What comes before the work -/

theorem keeps_configure (request : Request) : Keeps (configure request) :=
  (Config.reading_load _ _).keeps.bind fun _ => (reading_ofExcept _).keeps.bind fun _ =>
    Keeps.bind (fun _ _ => ⟨rfl, rfl⟩) fun _ => (reading_pure _).keeps

/-- A command reads its command line and its configuration before it does its work. -/
def command (c : CommandLine.Command) (args : List Text) (work : Request → Config → Run Nat) :
    Run Nat := do
  let request ← request c args
  let config ← configure request
  work request config

omit [Platform] in
/-- Reading the arguments gives a request, or shows the help, or fails. -/
theorem request_cases (c : CommandLine.Command) (args : List Text) (s : Setting) (w : World) :
    (∃ r, CommandLine.read c.known args = .ok r ∧ (request c args).start s w = (.ok r, w)) ∨
    (CommandLine.read c.known args = .error .help ∧ (request c args).start s w =
      (.error (.exit 0), { w with output := w.output ++ c.help s.columns s.program })) ∨
    ∃ e, (request c args).start s w = (.error e, w) := by
  unfold request
  cases hread : CommandLine.read c.known args with
  | ok r => exact .inl ⟨r, rfl, rfl⟩
  | error ending =>
    cases ending with
    | help =>
      have hprint := start_print (c.help s.columns s.program) s w
      split_ifs at hprint with hprintable
      · exact .inr (.inl ⟨rfl, (start_reading _ s w).trans (start_bind_ok hprint)⟩)
      · exact .inr (.inr ⟨_, (start_reading _ s w).trans (start_bind_error hprint)⟩)
    | misuse => exact .inr (.inr ⟨_, rfl⟩)

/-- A command fails before its work, having changed nothing, or it shows its help, or it comes to
its work. -/
theorem command_cases (c : CommandLine.Command) (args : List Text) (s : Setting) (w : World) :
    (∃ e w', w'.disk = w.disk ∧ w'.output = w.output ∧
      ∀ work, (command c args work).start s w = (.error e, w')) ∨
    (CommandLine.read c.known args = .error .help ∧
      ∀ work, (command c args work).start s w =
        (.error (.exit 0), { w with output := w.output ++ c.help s.columns s.program })) ∨
    ∃ request config w', CommandLine.read c.known args = .ok request ∧
      (configure request).start s w = (.ok config, w') ∧
      w'.disk = w.disk ∧ w'.output = w.output ∧
      ∀ work, (command c args work).start s w = (work request config).start s w' := by
  rcases request_cases c args s w with ⟨r, hread, hrequest⟩ | ⟨hread, hrequest⟩ | ⟨e, hrequest⟩
  · have hkeeps := keeps_configure r s w
    have hrun (work : Request → Config → Run Nat) :
        (command c args work).start s w = (configure r >>= work r).start s w :=
      start_bind_ok hrequest
    rcases hconfig : (configure r).start s w with ⟨e | config, w'⟩
    · rw [hconfig] at hkeeps
      exact .inl ⟨e, w', hkeeps.1, hkeeps.2, fun work =>
        (hrun work).trans (start_bind_error hconfig)⟩
    · rw [hconfig] at hkeeps
      exact .inr (.inr ⟨r, config, w', hread, hconfig, hkeeps.1, hkeeps.2, fun work =>
        (hrun work).trans (start_bind_ok hconfig)⟩)
  · exact .inr (.inl ⟨hread, fun work => start_bind_error hrequest⟩)
  · exact .inl ⟨e, w, rfl, rfl, fun work => start_bind_error hrequest⟩

/-! ## The command for one file -/

/-- What becomes of a draft for which a folder may be given: an accepted script is stored in the
folder or printed, as far as that can be done. -/
def concluded (outputDir : Option Text) : Draft → Setting → World → Except Failure Nat × World
  | .accepted script, s, w =>
    match outputDir with
    | some dir =>
      match (writeScripts [script] (Path.parse dir)).onDisk s w.disk with
      | (.ok _, d) => (.ok 0, { w with disk := d })
      | (.error e, d) => (.error e, { w with disk := d })
    | none =>
      if s.isPrintable script.content then (.ok 0, { w with output := w.output ++ script.content })
      else (.error .unencodable, w)
  | draft, _, w => (draft.status, w)

theorem endsAs_judged (script : Sieve.Script) (outputDir : Option Text) (message : Text) (b : Bool)
    (s : Setting) (w : World) :
    EndsAs (if b then
        match outputDir with
        | some dir => do
          let _ ← writeScripts [script] (Path.parse dir)
          return 0
        | none => do
          print script.content
          return 0
      else do
        note .error message
        return 1) s w (concluded outputDir (if b then .accepted script else .rejected) s w) := by
  cases b with
  | false => exact (actsAs_note _ _).bind (fun _ => actsAs_pure 1) s w
  | true =>
    cases outputDir with
    | none =>
      refine ⟨w.journal, ?_⟩
      simp only [if_true, start_bind, start_print, concluded]
      cases s.isPrintable script.content <;> rfl
    | some dir =>
      obtain ⟨j, hj⟩ := silent_writeScripts [script] (Path.parse dir) s w
      refine ⟨j, ?_⟩
      simp only [if_true, start_bind, hj, concluded]
      rcases (writeScripts [script] (Path.parse dir)).onDisk s w.disk with ⟨_ | _, _⟩ <;> rfl

/-- What a draft comes to does not depend on the journal. -/
theorem EndsAs.of_journal {run : Run Nat} {outputDir : Option Text} {draft : Draft} {s : Setting}
    {w w' : World} {j : Journal}
    (h : EndsAs run s w' (concluded outputDir draft s { w with journal := j })) :
    EndsAs run s w' (concluded outputDir draft s w) := by
  obtain ⟨j', hj'⟩ := h
  refine ⟨j', hj'.trans ?_⟩
  cases draft with
  | accepted script =>
    cases outputDir with
    | none =>
      simp only [concluded]
      split <;> rfl
    | some dir =>
      simp only [concluded]
      rcases (writeScripts [script] (Path.parse dir)).onDisk s w.disk with ⟨_ | _, _⟩ <;> rfl
  | _ => rfl

theorem endsAs_convertLoaded (request : Request) (config : Config) {fs : FilterSet}
    (hfs : fs.entries.isEmpty = false) (s : Setting) (w : World) :
    EndsAs (convertLoaded request config fs) s w
      (concluded (given request.outputDir) (Draft.ofSet fs (nameOr request.name request.file)
        (request.skipVerify || !config.verify)) s w) := by
  simp only [Draft.ofSet, hfs, Bool.false_eq_true, if_false]
  refine (actsAs_convertSet fs _).endsAs_bind_ok rfl fun j => ?_
  by_cases hcheck : (config.verify && !request.skipVerify) = true
  · have hskip : (request.skipVerify || !config.verify) = false := by
      revert hcheck
      cases config.verify <;> cases request.skipVerify <;> decide
    simp only [if_pos hcheck, hskip, Bool.false_or]
    refine (actsAs_note _ _).endsAs_bind_ok rfl fun j' => ?_
    refine (actsAs_verify fs _).endsAs_bind_ok rfl fun j'' => ?_
    exact (endsAs_judged _ _ _ _ s { w with journal := j'' }).of_journal
  · have hskip : (request.skipVerify || !config.verify) = true := by
      revert hcheck
      cases config.verify <;> cases request.skipVerify <;> decide
    simp only [if_neg hcheck, hskip, Bool.true_or]
    refine (actsAs_pure true).endsAs_bind_ok rfl fun j' => ?_
    exact (endsAs_judged _ _ _ true s { w with journal := j' }).of_journal

/-- The filters of a file, or nothing where the failure concerns the file only. -/
def loadedOrNoted (path encoding : Text) (s : Setting) (d : Disk) :
    Except Failure (Option FilterSet) :=
  match (loadFilters path encoding).outcome s d with
  | .ok fs => .ok (some fs)
  | .error e => Draft.tolerated none e

theorem actsAs_loadedOrNoted (path encoding : Text) (message : Text → Text) :
    ActsAs (orElseNote (loadFilters path encoding) message) fun s d =>
      (loadedOrNoted path encoding s d, d) := by
  refine (ActsAs.orElseNote (reading_loadFilters path encoding) message).congr fun s d => ?_
  simp only [loadedOrNoted]
  cases (loadFilters path encoding).outcome s d <;> rfl

/-- Once the command is configured, the draft of its file decides. -/
theorem endsAs_convert {args : List Text} {request : Request} {config : Config} {s : Setting}
    {w w' : World} (hread : CommandLine.read CommandLine.convertSpellings args = .ok request)
    (hconfig : (configure request).start s w = (.ok config, w')) :
    EndsAs (convert args) s w
      (concluded (given request.outputDir) (draftOf request.file config.encoding
        (nameOr request.name request.file) (request.skipVerify || !config.verify) s w'.disk)
        s w') := by
  have hrequest : (Run.request CommandLine.convert args).start s w = (.ok request, w) := by
    unfold Run.request
    rw [show CommandLine.convert.known = CommandLine.convertSpellings from rfl, hread]
    rfl
  unfold EndsAs convert
  rw [start_bind_ok hrequest, start_bind_ok hconfig]
  change EndsAs _ s w' (concluded (given request.outputDir) _ s w')
  unfold draftOf
  cases hfound : found request.file s w'.disk with
  | false =>
    refine (actsAs_reaches request.file).endsAs_bind_ok (congrArg Except.ok hfound) fun j => ?_
    exact (actsAs_note _ _).bind (fun _ => actsAs_pure 1) s { w' with journal := j }
  | true =>
    refine (actsAs_reaches request.file).endsAs_bind_ok (congrArg Except.ok hfound) fun j => ?_
    have hload := actsAs_loadedOrNoted request.file config.encoding fun m =>
      "Cannot load ".toList ++ request.file ++ ": ".toList ++ m
    simp only [if_true]
    cases houtcome : (loadFilters request.file config.encoding).outcome s w'.disk with
    | error e =>
      have hnoted : loadedOrNoted request.file config.encoding s w'.disk =
          Draft.tolerated none e := by
        rw [loadedOrNoted, houtcome]
      cases he : e.isTolerable with
      | false =>
        have hstatus : (Draft.unloadable e).status = .error e := by
          simp [Draft.status, Draft.tolerated, he]
        rw [Draft.tolerated, he] at hnoted
        simp only [concluded, hstatus]
        exact hload.endsAs_bind_error (w := { w' with journal := j }) hnoted _
      | true =>
        have hstatus : (Draft.unloadable e).status = .ok 1 := by
          simp [Draft.status, Draft.tolerated, he]
        rw [Draft.tolerated, he] at hnoted
        simp only [concluded, hstatus]
        exact hload.endsAs_bind_ok (w := { w' with journal := j }) hnoted fun j' => ⟨j', rfl⟩
    | ok fs =>
      have hloaded : loadedOrNoted request.file config.encoding s w'.disk = .ok (some fs) := by
        rw [loadedOrNoted, houtcome]
      refine hload.endsAs_bind_ok (w := { w' with journal := j }) hloaded fun j' => ?_
      cases hempty : fs.entries.isEmpty with
      | true =>
        simp only [Draft.ofSet, hempty, if_true]
        exact (actsAs_note _ _).bind (fun _ => actsAs_pure 0) s { w' with journal := j' }
      | false =>
        simp only [hempty, Bool.false_eq_true, if_false]
        exact (endsAs_convertLoaded request config hempty s { w' with journal := j' }).of_journal

end Run

end MailFilter
