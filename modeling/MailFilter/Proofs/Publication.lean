import MailFilter.Proofs.Commands

/-!
# What is published

A run has jobs: files that it loads, each with a character set and with a name for the script. With
the check on, both commands publish nothing but approved scripts, which are scripts of the filters
of a job that were loaded in the run and that passed the check. All that happens to the disk and to
the output is a row of acts, and the only acts are to make a folder, to write an approved script
into a file and to print one; an approved script that cannot be encoded leaves its file empty. This
holds however the run ends, and the only other thing that a command ever prints is its help, when it
is asked for that. A command for one file that ends with the status for a failure has published
nothing at all.
-/
namespace MailFilter.Run

section

variable [Platform]

/-- The files that a run may load, each with a character set and the name of its script. -/
abbrev Jobs := Text → Text → Text → Prop

/-- The script is made of filters that a job loads from this disk, and it passes the check. -/
def Approved (jobs : Jobs) (s : Setting) (d : Disk) (script : Sieve.Script) : Prop :=
  ∃ path encoding name fs, jobs path encoding name ∧
    (loadFilters path encoding).outcome s d = .ok fs ∧ fs.entries ≠ [] ∧
      script = Sieve.Script.ofFilterSet name fs ∧ Sieve.verify fs script = true

theorem approved_of_draftOf {jobs : Jobs} {path encoding name : Text}
    (hjob : jobs path encoding name) {s : Setting} {d : Disk} {script : Sieve.Script}
    (h : draftOf path encoding name false s d = .accepted script) : Approved jobs s d script := by
  obtain ⟨fs, hscript⟩ := draftOf_eq_accepted_iff.1 h
  refine ⟨path, encoding, name, fs, hjob, hscript.loaded, hscript.nonempty, hscript.script_eq, ?_⟩
  simpa using hscript.verified

/-- One act on a disk and an output. -/
inductive Publishes (jobs : Jobs) (s : Setting) : Disk × Text → Disk × Text → Prop
  | folder {d d' : Disk} {output path : Text} (h : Disk.makeFolder d s.base path = .ok d') :
    Publishes jobs s (d, output) (d', output)
  | file {d d₁ d₂ : Disk} {output path : Text} {script : Sieve.Script}
    (happroved : Approved jobs s d script)
    (hfolders : Disk.MakesFolders s.base (fun _ => True) d d₁)
    {bytes : List UInt8} (hencode : Text.Utf8.encode? script.content = some bytes)
    (hwrite : Disk.write d₁ s.base path bytes = .ok d₂) :
    Publishes jobs s (d, output) (d₂, output)
  | emptied {d d₁ d₂ : Disk} {output path : Text} {script : Sieve.Script}
    (happroved : Approved jobs s d script)
    (hfolders : Disk.MakesFolders s.base (fun _ => True) d d₁)
    (hencode : Text.Utf8.encode? script.content = none)
    (hwrite : Disk.write d₁ s.base path [] = .ok d₂) :
    Publishes jobs s (d, output) (d₂, output)
  | print {d : Disk} {output : Text} {script : Sieve.Script}
    (happroved : Approved jobs s d script) :
    Publishes jobs s (d, output) (d, output ++ script.content)

/-- All that happened to the disk and to the output is a row of such acts. -/
def Published (jobs : Jobs) (s : Setting) (w w' : World) : Prop :=
  Relation.ReflTransGen (Publishes jobs s) (w.disk, w.output) (w'.disk, w'.output)

/-! ## Acts of runs -/

section

variable {jobs : Jobs} {s : Setting}

theorem publishes_of_makesFolders {P : Text → Prop} {d d' : Disk}
    (h : Disk.MakesFolders s.base P d d') (output : Text) :
    Relation.ReflTransGen (Publishes jobs s) (d, output) (d', output) := by
  refine Relation.ReflTransGen.lift (fun d => (d, output)) ?_ d d' h
  rintro x y ⟨path, -, hmade⟩
  exact .folder hmade

theorem publishes_writeScripts {d : Disk} {script : Sieve.Script} (h : Approved jobs s d script)
    (dest : Path) (output : Text) :
    Relation.ReflTransGen (Publishes jobs s) (d, output)
      (((writeScripts [script] dest).onDisk s d).2, output) := by
  obtain ⟨d₁, hfolders, hstores⟩ := stores_writeScripts script dest s d
  have hmakes : Disk.MakesFolders s.base (fun _ => True) d d₁ := by
    refine Relation.ReflTransGen.mono ?_ _ _ hfolders
    rintro x y ⟨path, -, hmade⟩
    exact ⟨path, trivial, hmade⟩
  generalize (writeScripts [script] dest).onDisk s d = run at hstores ⊢
  cases hstores with
  | refused _ => exact publishes_of_makesFolders hfolders output
  | written hencode hwrite => exact .single (.file h hmakes hencode hwrite)
  | emptied hencode hwrite => exact .single (.emptied h hmakes hencode hwrite)

theorem Keeps.published {α : Type} {run : Run α} (h : Keeps run) (w : World) :
    Published jobs s w (run.start s w).2 := by
  obtain ⟨hdisk, houtput⟩ := h s w
  rw [Published, hdisk, houtput]

/-- What a run publishes and then what goes on from its result. -/
theorem published_bind {α β : Type} {x : Run α} {y : α → Run β} {w : World}
    (hx : Published jobs s w (x.start s w).2)
    (hy : ∀ a w', x.start s w = (.ok a, w') → Published jobs s w' ((y a).start s w').2) :
    Published jobs s w ((x >>= y).start s w).2 := by
  rw [start_bind]
  rcases hstart : x.start s w with ⟨e | a, w'⟩
  · rwa [hstart] at hx
  · rw [hstart] at hx
    exact Relation.ReflTransGen.trans hx (hy a w' hstart)

theorem publishes_turn {outputDir encoding : Text} {t : Turn}
    (hjobs : ∀ mailbox path, Names t.mapping mailbox path → jobs path encoding mailbox)
    (output : Text) :
    Relation.ReflTransGen (Publishes jobs s) (t.disk, output)
      ((t.result outputDir encoding false s).2, output) := by
  rcases t.disk_cases with hsame | ⟨mailbox, path, script, hnames, hdraft, hstored⟩
  · rw [hsame]
  · rw [hstored]
    have hjob := hjobs mailbox path hnames
    exact publishes_writeScripts (approved_of_draftOf hjob hdraft) _ output

end

/-- The jobs of a batch: the files of the mappings, each under the name of its mailbox. -/
def listJobs (mappings : Value) (encoding : Text) : Jobs := fun path encoding' name =>
  encoding' = encoding ∧ ∃ vs, mappings = .list vs ∧ ∃ v ∈ vs, Names v name path

/-- A batch that makes the check publishes approved scripts only. -/
theorem published_convertAll {jobs : Jobs} {mappings : Value} {encoding : Text}
    (hjobs : ∀ path name, listJobs mappings encoding path encoding name →
      jobs path encoding name) (outputDir : Text) (s : Setting) (w : World) :
    Published jobs s w ((convertAll mappings outputDir false encoding).start s w).2 := by
  unfold convertAll
  rcases mappingList_cases mappings with ⟨vs, hlist, hvs⟩ | hlist
  · have hsilent := silent_convertMappings outputDir encoding false {} vs
    obtain ⟨-, hdisk, houtput⟩ := hsilent.start_eq s w
    rw [hlist, pure_bind, Published, hdisk, houtput]
    refine convertMappings_trail
      (T := fun d d' => Relation.ReflTransGen (Publishes jobs s) (d, w.output) (d', w.output))
      (fun _ => .refl) (fun _ _ _ h h' => h.trans h') (fun d v hv => ?_) {} w.disk
    refine publishes_turn (t := ⟨d, v⟩) (fun mailbox path hnames => ?_) w.output
    rcases hvs with hmappings | rfl
    · exact hjobs path mailbox ⟨rfl, vs, hmappings, v, hv, hnames⟩
    · cases hv
  · rw [hlist]
    exact .refl

/-! ## The commands -/

/-- The command line and the configuration leave the check on. -/
def Checks (known : CommandLine.Spellings) (args : List Text) (s : Setting) (w : World) : Prop :=
  ∀ request config, CommandLine.read known args = .ok request →
    ((configure request).start s w).1 = .ok config →
      config.verify = true ∧ request.skipVerify = false

theorem Checks.skipVerify_eq {known : CommandLine.Spellings} {args : List Text} {s : Setting}
    {w w' : World} {request : Request} {config : Config} (h : Checks known args s w)
    (hread : CommandLine.read known args = .ok request)
    (hconfig : (configure request).start s w = (.ok config, w')) :
    (request.skipVerify || !config.verify) = false := by
  obtain ⟨hverify, hskip⟩ := h request config hread (by rw [hconfig])
  rw [hverify, hskip]
  rfl

/-- The only job of the command for one file. -/
def fileJobs (args : List Text) (s : Setting) (w : World) : Jobs := fun path encoding name =>
  ∃ request config, CommandLine.read CommandLine.convertSpellings args = .ok request ∧
    ((configure request).start s w).1 = .ok config ∧ path = request.file ∧
      encoding = config.encoding ∧ name = nameOr request.name request.file

/-- The jobs of the command for a batch: those of the mappings that it reads. -/
def batchJobs (args : List Text) (s : Setting) (w : World) : Jobs := fun path encoding name =>
  ∃ request config mappings, CommandLine.read CommandLine.batchSpellings args = .ok request ∧
    ((configure request).start s w).1 = .ok config ∧
      (readMappings request.file).outcome s w.disk = .ok mappings ∧
        listJobs mappings config.encoding path encoding name

/-- What an approved draft, or one that is none, comes to. -/
theorem published_concluded {jobs : Jobs} {outputDir : Option Text} {draft : Draft} {s : Setting}
    {w : World} (h : ∀ script, draft = .accepted script → Approved jobs s w.disk script) :
    Published jobs s w (concluded outputDir draft s w).2 := by
  cases draft with
  | accepted script =>
    have happroved := h script rfl
    cases outputDir with
    | none =>
      simp only [concluded]
      split
      · exact .single (.print happroved)
      · exact .refl
    | some dir =>
      have hstored := publishes_writeScripts happroved (Path.parse dir) w.output
      simp only [concluded, Published]
      rcases hrun : (writeScripts [script] (Path.parse dir)).onDisk s w.disk with ⟨_ | _, d⟩
      · rwa [hrun] at hstored
      · rwa [hrun] at hstored
  | _ => exact .refl

/-- Only a draft that is not accepted leads to the status of a failure. -/
theorem concluded_of_status_one {outputDir : Option Text} {draft : Draft} {s : Setting} {w : World}
    (h : (concluded outputDir draft s w).1 = .ok 1) : (concluded outputDir draft s w).2 = w := by
  cases draft with
  | accepted script =>
    cases outputDir <;>
    · simp only [concluded] at h
      split at h
      · cases h
      · cases h
  | _ => rfl

/-- The command is asked for help; it shows that and does nothing else. -/
structure Helps (c : CommandLine.Command) (args : List Text) (s : Setting) (w : World)
    (result : Except Failure Nat × World) : Prop where
  asked : CommandLine.read c.known args = .error .help
  result_eq : result =
    (.error (.exit 0), { w with output := w.output ++ c.help s.columns s.program })

theorem published_convert {args : List Text} {s : Setting} {w : World}
    (h : Checks CommandLine.convertSpellings args s w) :
    Published (fileJobs args s w) s w ((convert args).start s w).2 ∨
      Helps CommandLine.convert args s w ((convert args).start s w) := by
  rcases command_cases CommandLine.convert args s w with
    ⟨e, w', hdisk, houtput, hrun⟩ | ⟨hread, hrun⟩ |
      ⟨request, config, w', hread, hconfig, hdisk, houtput, -⟩
  · have hstart : (convert args).start s w = (.error e, w') := hrun _
    left
    rw [hstart, Published, hdisk, houtput]
  · exact .inr ⟨hread, hrun _⟩
  · have hjob : fileJobs args s w request.file config.encoding
        (nameOr request.name request.file) :=
      ⟨request, config, hread, by rw [hconfig], rfl, rfl, rfl⟩
    obtain ⟨j, hj⟩ := endsAs_convert hread hconfig
    rw [h.skipVerify_eq hread hconfig] at hj
    left
    rw [hj, Published, ← hdisk, ← houtput]
    exact published_concluded fun script hdraft => approved_of_draftOf hjob hdraft

theorem reading_readText (path : Text) : Reading (readText path) := by
  refine (reading_readBytes path).bind fun bytes => ?_
  split
  · exact reading_pure _
  · exact reading_throw _

theorem reading_readMappings (path : Text) : Reading (readMappings path) := by
  refine (reading_readText path).bind fun text => ?_
  split
  · exact reading_pure _
  · exact reading_throw _
  · exact reading_throw _
  · exact reading_throw _

theorem published_batch {args : List Text} {s : Setting} {w : World}
    (h : Checks CommandLine.batchSpellings args s w) :
    Published (batchJobs args s w) s w ((batch args).start s w).2 ∨
      Helps CommandLine.batch args s w ((batch args).start s w) := by
  rcases command_cases CommandLine.batch args s w with
    ⟨e, w', hdisk, houtput, hrun⟩ | ⟨hread, hrun⟩ |
      ⟨request, config, w', hread, hconfig, hdisk, houtput, hrun⟩
  · have hstart : (batch args).start s w = (.error e, w') := hrun _
    left
    rw [hstart, Published, hdisk, houtput]
  · exact .inr ⟨hread, hrun _⟩
  · have hskip := h.skipVerify_eq hread hconfig
    have hstart : (batch args).start s w = _ := hrun _
    left
    rw [hstart, Published, ← hdisk, ← houtput, hskip]
    have hreaches := (actsAs_reaches request.file).reading.keeps
    refine published_bind (hreaches.published w') fun b w₁ hw₁ => ?_
    cases b with
    | false =>
      refine Keeps.published ?_ w₁
      exact ((reading_note _ _).bind fun _ => reading_pure 1).keeps
    | true =>
      have hmappings := reading_readMappings request.file
      refine published_bind (hmappings.keeps.published w₁) fun v w₂ hw₂ => ?_
      -- nothing has changed the disk so far, so these are the mappings that the jobs speak of
      have hdisk₁ : w₁.disk = w.disk := by
        have hkept := (hreaches s w').1
        rw [hw₁] at hkept
        exact hkept.trans hdisk
      have houtcome : (readMappings request.file).outcome s w.disk = .ok v := by
        rw [← hdisk₁, outcome, ← (hmappings.silent.start_eq s w₁).1, hw₂]
      refine published_bind (published_convertAll (fun path name hjob => ?_) _ s w₂)
        fun tally w₃ _ => ?_
      · exact ⟨request, config, v, hread, by rw [hconfig], houtcome, hjob⟩
      · refine Keeps.published ?_ w₃
        exact ((reading_note _ _).bind fun _ => reading_pure _).keeps

/-- A command for one file that ends with the status of a failure has changed nothing. -/
theorem start_convert_of_status_one {args : List Text} {s : Setting} {w : World}
    (h : ((convert args).start s w).1 = .ok 1) :
    ((convert args).start s w).2.disk = w.disk ∧
      ((convert args).start s w).2.output = w.output := by
  rcases command_cases CommandLine.convert args s w with
    ⟨e, w', hdisk, houtput, hrun⟩ | ⟨-, hrun⟩ |
      ⟨request, config, w', hread, hconfig, hdisk, houtput, -⟩
  · have hstart : (convert args).start s w = (.error e, w') := hrun _
    rw [hstart]
    exact ⟨hdisk, houtput⟩
  · have hstart : (convert args).start s w = (.error (.exit 0), _) := hrun _
    rw [hstart] at h
    cases h
  · obtain ⟨j, hj⟩ := endsAs_convert hread hconfig
    rw [hj] at h ⊢
    rw [concluded_of_status_one h]
    exact ⟨hdisk, houtput⟩

/-- With the check on, no run publishes anything but approved scripts of its jobs, however it ends,
unless it is asked for help and shows just that. A command for one file that reports a failure has
published nothing. -/
theorem only_approved_published (s : Setting) (w : World) :
    (∀ args, Checks CommandLine.convertSpellings args s w →
      Published (fileJobs args s w) s w ((convert args).start s w).2 ∨
        Helps CommandLine.convert args s w ((convert args).start s w)) ∧
    (∀ args, Checks CommandLine.batchSpellings args s w →
      Published (batchJobs args s w) s w ((batch args).start s w).2 ∨
        Helps CommandLine.batch args s w ((batch args).start s w)) ∧
    (∀ mappings outputDir encoding, Published (listJobs mappings encoding) s w
      ((convertAll mappings outputDir false encoding).start s w).2) ∧
    ∀ args, ((convert args).start s w).1 = .ok 1 →
      ((convert args).start s w).2.disk = w.disk ∧
        ((convert args).start s w).2.output = w.output := by
  refine ⟨fun args h => published_convert h, fun args h => published_batch h, ?_, ?_⟩
  · intro mappings outputDir encoding
    exact published_convertAll (fun path name hjob => hjob) outputDir s w
  · intro args h
    exact start_convert_of_status_one h

/-- Without jobs nothing is printed. -/
theorem Published.output_eq {jobs : Jobs} {s : Setting} {w w' : World}
    (h : Published jobs s w w') (hjobs : ∀ path encoding name, ¬ jobs path encoding name) :
    w'.output = w.output := by
  have hnone (d : Disk) (script : Sieve.Script) : ¬ Approved jobs s d script :=
    fun ⟨path, encoding, name, _, hjob, _⟩ => hjobs path encoding name hjob
  have hsame (x y : Disk × Text) (hact : Publishes jobs s x y) : y.2 = x.2 := by
    cases hact with
    | folder _ => rfl
    | file _ _ _ _ => rfl
    | emptied _ _ _ _ => rfl
    | print happroved => exact absurd happroved (hnone _ _)
  unfold Published at h
  generalize hx : (w.disk, w.output) = x at h
  generalize hy : (w'.disk, w'.output) = y at h
  have hoverall : y.2 = x.2 := by
    clear hx hy
    induction h with
    | refl => rfl
    | tail _ hact ih => exact (hsame _ _ hact).trans ih
  rwa [← hx, ← hy] at hoverall

end

open scoped Platform

theorem only_approved_published_oneFile :
    let args := ["in/b".toList]
    let world : World := ⟨datedDisk, 0, [], []⟩
    Checks CommandLine.convertSpellings args atRoot world ∧
      Published (fileJobs args atRoot world) atRoot world ((convert args).start atRoot world).2 ∧
      ((convert args).start atRoot world).1 = .ok 0 := by
  intro args world
  have hread : CommandLine.read CommandLine.convertSpellings args =
      .ok { file := "in/b".toList } := by decide +kernel
  have hconfig : ((configure { file := "in/b".toList }).start atRoot world).1 = .ok {} := by
    decide +kernel
  have hchecks : Checks CommandLine.convertSpellings args atRoot world := by
    intro request config hrequest hcheck
    obtain rfl := Except.ok.inj (hread.symm.trans hrequest)
    obtain rfl := Except.ok.inj (hconfig.symm.trans hcheck)
    exact ⟨rfl, rfl⟩
  have hstatus : ((convert args).start atRoot world).1 = .ok 0 := by decide +kernel
  refine ⟨hchecks, ?_, hstatus⟩
  rcases (only_approved_published atRoot world).1 args hchecks with hpublished | hhelps
  · exact hpublished
  · rw [hhelps.result_eq] at hstatus
    cases hstatus

/-- Help is no script, and yet it is printed with the check on. -/
theorem not_published_help :
    let args := ["--help".toList]
    let world : World := ⟨datedDisk, 0, [], []⟩
    Checks CommandLine.convertSpellings args atRoot world ∧
      ¬ Published (fileJobs args atRoot world) atRoot world
        ((convert args).start atRoot world).2 := by
  intro args world
  have hread : CommandLine.read CommandLine.convertSpellings args = .error .help := by
    decide +kernel
  have hprinted : ((convert args).start atRoot world).2.output ≠ [] := by decide +kernel
  refine ⟨fun request config hrequest _ => ?_, fun hpublished => hprinted ?_⟩
  · rw [hread] at hrequest
    cases hrequest
  · refine hpublished.output_eq fun path encoding name hjob => ?_
    obtain ⟨request, config, hrequest, -⟩ := hjob
    rw [hread] at hrequest
    cases hrequest

end MailFilter.Run
