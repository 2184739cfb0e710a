import MailFilter.Proofs.Drafts
import Mathlib.Data.List.Count

/-!
# Batches turn by turn

A batch is a row of turns, one for each mapping, and every turn starts from the disk that the one
before it left. A turn that ends well adds its outcome to the tally. A turn that does not end well
ends the batch. For mappings of two texts under a known character set this takes bytes that the
decoder gives up, a document with a faulty scalar, a folder whose path cannot be given to the disk,
or a script that cannot be encoded.
-/
namespace MailFilter

/-! ## Tallies -/

namespace Tally

end Tally

namespace Run

/-- A value lists its items, or nothing, or it is refused. -/
theorem mappingList_cases (v : Value) :
    (∃ vs, mappingList v = pure vs ∧ (v = .list vs ∨ vs = [])) ∨
      mappingList v = throw .wrongType := by
  unfold mappingList
  split
  next vs => exact .inl ⟨vs, rfl, .inl rfl⟩
  · exact .inl ⟨[], rfl, .inr rfl⟩
  · exact .inl ⟨[], rfl, .inr rfl⟩
  · exact .inr rfl

section

variable [Platform]

/-! ## Turns -/

theorem silent_convertMapping (outputDir encoding : Text) (skipVerify : Bool) (v : Value) :
    Silent (convertMapping outputDir skipVerify encoding v) := by
  by_cases hv : ∃ mailbox path, Names v mailbox path
  · obtain ⟨mailbox, path, hv⟩ := hv
    exact (actsAs_convertMapping hv outputDir encoding skipVerify).silent
  · refine (reading_convertMapping (fun mailbox path h => hv ⟨mailbox, path, h⟩) _ _ _).silent

theorem silent_convertMappings (outputDir encoding : Text) (skipVerify : Bool) (tally : Tally)
    (vs : List Value) : Silent (convertMappings outputDir skipVerify encoding tally vs) := by
  induction vs generalizing tally with
  | nil => exact silent_pure tally
  | cons v vs ih => exact (silent_convertMapping _ _ _ v).bind fun o => ih (tally.add o)

theorem silent_convertAll (v : Value) (outputDir encoding : Text) (skipVerify : Bool) :
    Silent (convertAll v outputDir skipVerify encoding) := by
  unfold convertAll
  rcases mappingList_cases v with ⟨vs, hlist, -⟩ | hlist
  · rw [hlist, pure_bind]
    exact silent_convertMappings outputDir encoding skipVerify {} vs
  · rw [hlist]
    exact silent_throw .wrongType

/-- A mapping and the disk that it finds. -/
structure Turn where
  disk : Disk
  mapping : Value

section

variable (outputDir encoding : Text) (skipVerify : Bool) (s : Setting)

/-- How a turn ends, and the disk after it. -/
def Turn.result (t : Turn) : Except Failure Outcome × Disk :=
  (convertMapping outputDir skipVerify encoding t.mapping).onDisk s t.disk

variable {outputDir encoding skipVerify s}

/-- One turn after the other. -/
theorem onDisk_convertMappings_cons (tally : Tally) (d : Disk) (v : Value) (vs : List Value) :
    (convertMappings outputDir skipVerify encoding tally (v :: vs)).onDisk s d =
      match Turn.result outputDir encoding skipVerify s ⟨d, v⟩ with
      | (.ok o, d') =>
        (convertMappings outputDir skipVerify encoding (tally.add o) vs).onDisk s d'
      | (.error e, d') => (.error e, d') := by
  have hrest (o : Outcome) := silent_convertMappings outputDir encoding skipVerify (tally.add o) vs
  have hbind := ActsAs.bind (silent_convertMapping outputDir encoding skipVerify v) hrest
  rw [convertMappings, hbind.onDisk_eq]
  simp only [andThen, Turn.result]
  rcases (convertMapping outputDir skipVerify encoding v).onDisk s d with ⟨_ | _, _⟩ <;> rfl

theorem Names.result_eq {t : Turn} {mailbox path : Text} (ht : Names t.mapping mailbox path) :
    t.result outputDir encoding skipVerify s =
      carriedOut outputDir mailbox (draftOf path encoding mailbox skipVerify s t.disk) s
        t.disk := by
  rw [Turn.result, (actsAs_convertMapping ht outputDir encoding skipVerify).onDisk_eq]

/-- A turn leaves the disk alone, or it stores a script that it accepted. -/
theorem Turn.disk_cases (t : Turn) :
    (t.result outputDir encoding skipVerify s).2 = t.disk ∨
      ∃ mailbox path script, Names t.mapping mailbox path ∧
        draftOf path encoding mailbox skipVerify s t.disk = .accepted script ∧
        (t.result outputDir encoding skipVerify s).2 =
          ((writeScripts [script] (folderFor outputDir mailbox)).onDisk s t.disk).2 := by
  by_cases ht : ∃ mailbox path, Names t.mapping mailbox path
  · obtain ⟨mailbox, path, ht⟩ := ht
    rw [ht.result_eq]
    cases hdraft : draftOf path encoding mailbox skipVerify s t.disk with
    | accepted script =>
      refine .inr ⟨mailbox, path, script, ht, hdraft, ?_⟩
      simp only [carriedOut]
      rcases (writeScripts [script] (folderFor outputDir mailbox)).onDisk s t.disk with
        ⟨_ | _, _⟩ <;> rfl
    | _ => exact .inl rfl
  · have hreading := reading_convertMapping (fun mailbox path h => ht ⟨mailbox, path, h⟩) outputDir
      encoding skipVerify
    exact .inl (by rw [Turn.result, hreading.onDisk_eq])

/-- What every turn does to the disk, again and again, is what a batch does. -/
theorem convertMappings_trail {T : Disk → Disk → Prop} (hrefl : ∀ d, T d d)
    (htrans : ∀ x y z, T x y → T y z → T x z) {vs : List Value}
    (hturn : ∀ d, ∀ v ∈ vs, T d (Turn.result outputDir encoding skipVerify s ⟨d, v⟩).2)
    (tally : Tally) (d : Disk) :
    T d ((convertMappings outputDir skipVerify encoding tally vs).onDisk s d).2 := by
  induction vs generalizing tally d with
  | nil => exact hrefl d
  | cons v vs ih =>
    have hfirst := hturn d v List.mem_cons_self
    rw [onDisk_convertMappings_cons]
    rcases hv : Turn.result outputDir encoding skipVerify s ⟨d, v⟩ with ⟨e | o, d'⟩
    · rwa [hv] at hfirst
    · rw [hv] at hfirst
      have hrest := ih (fun d v hv => hturn d v (List.mem_cons_of_mem _ hv)) (tally.add o) d'
      exact htrans _ _ _ hfirst hrest

end

/-! ## What a turn comes to -/

/-- A file that is there fails to load for a reason of its own, unless its bytes are given up or a
scalar is at fault. -/
theorem KnownCharset.isTolerable_eq_false_iff {s : Setting} {encoding path : Text}
    (hc : KnownCharset s encoding) {d : Disk} (hfound : found path s d = true) {e : Failure}
    (he : (loadFilters path encoding).outcome s d = .error e) :
    e.isTolerable = false ↔ e = .undecodable ∨ e.IsScalarFault := by
  constructor
  · intro hfatal
    rw [outcome_loadFilters hc.usable] at he
    have hpath : pathFault? path = none := by
      simp only [found, Bool.and_eq_true, Option.isNone_iff_eq_none] at hfound
      exact hfound.1
    have hparsed : pathFault? (Path.parse path).text = none :=
      pathFault?_eq_none_iff.2 fun c hmem hbarred => pathFault?_eq_none_iff.1 hpath c
        (Path.mem_of_mem_text_parse hbarred.notMem_ownChars hmem) hbarred
    cases hasked : asked Disk.read (Path.parse path).text s d with
    | error e' =>
      rw [hasked] at he
      obtain rfl : e' = e := Except.error.inj he
      rcases refused_of_asked (P := (· = (Path.parse path).text)) rfl hasked with
        ⟨fault, p, rfl⟩ | ⟨p, rfl, hfault⟩
      · cases hfatal
      · rw [hparsed] at hfault
        cases hfault
    | ok bytes =>
      rw [hasked] at he
      rcases hc.filtersIn_error he with hbytes | ⟨g, rfl⟩ | hfault
      · exact .inl hbytes
      · cases hfatal
      · exact .inr hfault
  · rintro (rfl | ⟨g, -, rfl⟩ | ⟨o, rfl⟩)
    · rfl
    · rfl
    · cases o <;> rfl

/-- A file for scripts of that name can be made in the folder. -/
def CanHold (dest : Path) (name : Text) (s : Setting) (d : Disk) : Prop :=
  ∃ paths d', (writeScripts [⟨name, []⟩] dest).onDisk s d = (.ok paths, d')

/-- The drafts that end a batch: a file whose bytes are given up, a document with a faulty scalar, a
script whose folder cannot be given to the disk, and a script that cannot be encoded when the file
for it can be made. -/
def Stops (dest : Path) (s : Setting) (d : Disk) : Draft → Prop
  | .unloadable e => e = .undecodable ∨ e.IsScalarFault
  | .accepted script => pathFault? dest.text ≠ none ∨
      Text.Utf8.encode? script.content = none ∧ CanHold dest script.name s d
  | _ => False

/-- Only the disk can refuse a script that can be encoded, unless a path has a barred character. -/
theorem isTolerable_of_writeScripts {script : Sieve.Script} {dest : Path} {s : Setting} {d : Disk}
    {bytes : List UInt8} {e : Failure} (hencode : Text.Utf8.encode? script.content = some bytes)
    (hdest : pathFault? dest.text = none) (hname : ∀ c ∈ script.name, ¬ IsBarred c)
    (h : ((writeScripts [script] dest).onDisk s d).1 = .error e) : e.isTolerable = true := by
  obtain ⟨d₁, -, hstores⟩ := stores_writeScripts script dest s d
  generalize (writeScripts [script] dest).onDisk s d = run at h hstores
  cases hstores with
  | refused hrefused =>
    obtain rfl := Except.error.inj h
    exact hrefused.isTolerable hdest hname
  | written _ _ => cases h
  | emptied hnone _ => simp [hencode] at hnone

/-- Storing a script ends a batch when it fails and the failure is not that of one file. -/
theorem exists_error_carriedOut_accepted (outputDir mailbox : Text) (script : Sieve.Script)
    (s : Setting) (d : Disk) :
    (∃ e, (carriedOut outputDir mailbox (.accepted script) s d).1 = .error e) ↔
      ∃ e, ((writeScripts [script] (folderFor outputDir mailbox)).onDisk s d).1 = .error e ∧
        e.isTolerable = false := by
  simp only [carriedOut]
  rcases (writeScripts [script] (folderFor outputDir mailbox)).onDisk s d with ⟨e | paths, d'⟩
  · cases h : e.isTolerable <;> simp [Draft.tolerated, h]
  · simp

/-- Storing the script of a mailbox fails for good only because of a character in the path or in the
script. -/
theorem exists_error_carriedOut_iff {outputDir mailbox : Text} {script : Sieve.Script}
    (hname : script.name = mailbox) (s : Setting) (d : Disk) :
    (∃ e, (carriedOut outputDir mailbox (.accepted script) s d).1 = .error e) ↔
      Stops (folderFor outputDir mailbox) s d (.accepted script) := by
  rw [exists_error_carriedOut_accepted, Stops]
  cases hfault : pathFault? (folderFor outputDir mailbox).text with
  | some e =>
    simp [outcome_writeScripts_of_pathFault? hfault, isTolerable_of_pathFault? hfault]
  | none =>
    -- a barred character in the name would be one in the folder
    have hmailbox : ∀ c ∈ script.name, ¬ IsBarred c := by
      intro c hmem hbarred
      rw [hname] at hmem
      exact pathFault?_eq_none_iff.1 hfault c
        (Path.mem_text_join hbarred.notMem_ownChars _ hmem) hbarred
    cases hencode : Text.Utf8.encode? script.content with
    | some bytes =>
      refine iff_of_false ?_ (by simp)
      rintro ⟨e, he, hfatal⟩
      simp [isTolerable_of_writeScripts hencode hfault hmailbox he] at hfatal
    | none =>
      have hnothing : Text.Utf8.encode? (Sieve.Script.mk script.name []).content = some [] := rfl
      have hdisk (e : Failure) := isTolerable_of_writeScripts (s := s) (d := d) (e := e) hnothing
        hfault hmailbox
      rw [onDisk_writeScripts_of_unencodable hencode, andThen, CanHold]
      rcases hempty : (writeScripts [⟨script.name, []⟩] (folderFor outputDir mailbox)).onDisk s d
        with ⟨e | paths, d'⟩
      · simp [hdisk e (by rw [hempty])]
      · simp [Failure.isTolerable]

/-- What the turn of a mailbox comes to, by the draft of its file. -/
structure Turn.Settled (outputDir encoding : Text) (skipVerify : Bool) (s : Setting) (t : Turn)
    (mailbox path : Text) : Prop where
  error_iff : (∃ e, (t.result outputDir encoding skipVerify s).1 = .error e) ↔
    Stops (folderFor outputDir mailbox) s t.disk
      (draftOf path encoding mailbox skipVerify s t.disk)
  skipped_iff : (t.result outputDir encoding skipVerify s).1 = .ok .skipped ↔
    draftOf path encoding mailbox skipVerify s t.disk = .missing ∨
      draftOf path encoding mailbox skipVerify s t.disk = .blank
  converted_iff : (t.result outputDir encoding skipVerify s).1 = .ok .converted ↔
    ∃ script paths d', draftOf path encoding mailbox skipVerify s t.disk = .accepted script ∧
      (writeScripts [script] (folderFor outputDir mailbox)).onDisk s t.disk = (.ok paths, d')
  stored : ∀ script paths d', draftOf path encoding mailbox skipVerify s t.disk = .accepted script →
    (writeScripts [script] (folderFor outputDir mailbox)).onDisk s t.disk = (.ok paths, d') →
      t.result outputDir encoding skipVerify s = (.ok .converted, d') ∧
        Disk.read d' s.base ((folderFor outputDir mailbox).fileFor script).text =
          .ok (Text.Utf8.encode script.content)

theorem Names.settled_accepted {encoding mailbox path outputDir : Text} {skipVerify : Bool}
    {s : Setting} {t : Turn} {script : Sieve.Script} (ht : Names t.mapping mailbox path)
    (hdraft : draftOf path encoding mailbox skipVerify s t.disk = .accepted script) :
    t.Settled outputDir encoding skipVerify s mailbox path := by
  obtain ⟨fs, hscript⟩ := draftOf_eq_accepted_iff.1 hdraft
  have hname : script.name = mailbox := by
    rw [hscript.script_eq]
    rfl
  constructor
  · rw [ht.result_eq, hdraft]
    exact exists_error_carriedOut_iff hname s t.disk
  · rw [ht.result_eq, hdraft, carriedOut]
    rcases (writeScripts [script] (folderFor outputDir mailbox)).onDisk s t.disk with ⟨e | _, _⟩
    · cases h : e.isTolerable <;> simp [Draft.tolerated, h]
    · simp
  · rw [ht.result_eq, hdraft, carriedOut]
    rcases hwrite : (writeScripts [script] (folderFor outputDir mailbox)).onDisk s t.disk with
      ⟨e | _, _⟩
    · cases h : e.isTolerable <;> simp [Draft.tolerated, h, hwrite]
    · simp [hwrite]
  · intro script' paths d' hdraft' hwrite
    rw [ht.result_eq, hdraft', carriedOut, hwrite]
    exact ⟨rfl, read_of_writeScripts hwrite⟩

theorem Names.settled {encoding mailbox path : Text} {s : Setting} (hc : KnownCharset s encoding)
    {t : Turn} (ht : Names t.mapping mailbox path) (outputDir : Text) (skipVerify : Bool) :
    t.Settled outputDir encoding skipVerify s mailbox path := by
  cases hdraft : draftOf path encoding mailbox skipVerify s t.disk with
  | missing => constructor <;> simp [ht.result_eq, hdraft, carriedOut, Draft.outcome, Stops]
  | blank => constructor <;> simp [ht.result_eq, hdraft, carriedOut, Draft.outcome, Stops]
  | rejected => constructor <;> simp [ht.result_eq, hdraft, carriedOut, Draft.outcome, Stops]
  | unloadable e =>
    obtain ⟨hfound, hload⟩ := draftOf_eq_unloadable hdraft
    have hfault := hc.isTolerable_eq_false_iff hfound hload
    cases he : e.isTolerable <;> constructor <;>
      simp [ht.result_eq, hdraft, carriedOut, Draft.outcome, Draft.tolerated, Stops, ← hfault, he]
  | accepted script => exact ht.settled_accepted hdraft

/-! ## Whole batches -/

end

/-! ## A batch that is stopped -/

open scoped Platform

/-- A mapping of two texts. -/
def mapping (mailbox path : String) : Value :=
  .map [(.text "mailbox".toList, .text mailbox.toList), (.text "path".toList, .text path.toList)]

/-- Filter text with one filter. -/
def logFilter : Text := "#a\nif\n$header_from: is \"b\"\nthen\nsave \"c\"\nendif\n".toList

/-- A disk with a document whose date is impossible, and with filter text. -/
def datedDisk : Disk :=
  ⟨[(["in".toList], .folder),
    (["in".toList, "a.yaml".toList], .file (Text.Utf8.encode "version: 2024-13-45\n".toList)),
    (["in".toList, "b".toList], .file (Text.Utf8.encode logFilter))]⟩

def atRoot : Setting where
  base := []
  home := "/".toList
  environment := []

end Run

end MailFilter
