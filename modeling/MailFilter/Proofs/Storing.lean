import MailFilter.Proofs.Effects
import MailFilter.Proofs.Places
import Mathlib.Logic.Relation

/-!
# Storing scripts

A script is stored in two stages. First the folders on the way to its own folder are made where
they are missing; each of them stands at the end of an initial part of the path. Then the file is
written. The disk may refuse either stage, and a path may have a character that no path may have;
then the folders that were made stay, and nothing else has changed. A script that cannot be encoded
leaves an empty file behind.
-/
namespace MailFilter

namespace Path

/-- The text is that of the path or of an initial part of it. -/
def OnWay (p : Path) (t : Text) : Prop := ∃ qs, qs <+: p.parts ∧ t = Path.text ⟨p.root, qs⟩

@[simp] theorem onWay_text (p : Path) : p.OnWay p.text := ⟨p.parts, List.prefix_rfl, rfl⟩

theorem OnWay.mono {root t : Text} {ps qs : List Text} (hsub : ps <+: qs)
    (h : OnWay ⟨root, ps⟩ t) : OnWay ⟨root, qs⟩ t := by
  obtain ⟨rs, hrs, rfl⟩ := h
  exact ⟨rs, hrs.trans hsub, rfl⟩

/-- The characters that paths have of their own, and those of the names of scripts. -/
def ownChars : Text := "/_unnamed.sieve".toList

section Characters

variable {c : Char} (hc : c ∉ ownChars)
include hc

theorem ne_slash_of_notMem : c ≠ '/' := by
  rintro rfl
  exact hc (by decide)

theorem ne_dot_of_notMem : c ≠ '.' := by
  rintro rfl
  exact hc (by decide)

/-- Any other character in the text of a path comes from its root or one of its parts. -/
theorem mem_text_iff (p : Path) : c ∈ p.text ↔ c ∈ p.root ∨ ∃ q ∈ p.parts, c ∈ q := by
  obtain ⟨root, parts⟩ := p
  unfold text
  split
  next h =>
    simp only [Bool.and_eq_true, List.isEmpty_iff] at h
    simp [h.1, h.2, ne_dot_of_notMem hc]
  · constructor
    · intro h
      rcases List.mem_append.1 h with hroot | hjoin
      · exact .inl hroot
      · rcases Text.mem_join hjoin with hslash | hq
        · exact absurd (List.mem_singleton.1 hslash) (ne_slash_of_notMem hc)
        · exact .inr hq
    · rintro (hroot | ⟨q, hq, hmem⟩)
      · exact List.mem_append_left _ hroot
      · exact List.mem_append_right _ (Text.subset_join hq hmem)

theorem mem_parts_parse {s : Text} (h : c ∈ s) : ∃ q ∈ (parse s).parts, c ∈ q := by
  have hsplit : c ∈ Text.join ['/'] (Text.splitOn '/' s) := by rwa [Text.join_splitOn]
  rcases Text.mem_join hsplit with hslash | ⟨q, hq, hmem⟩
  · exact absurd (List.mem_singleton.1 hslash) (ne_slash_of_notMem hc)
  · refine ⟨q, List.mem_filter.2 ⟨hq, ?_⟩, hmem⟩
    have hempty : q ≠ [] := List.ne_nil_of_mem hmem
    have hdot : q ≠ ['.'] := by
      rintro rfl
      exact ne_dot_of_notMem hc (List.mem_singleton.1 hmem)
    simp [hempty, hdot]

theorem mem_of_mem_text_parse {s : Text} (h : c ∈ (parse s).text) : c ∈ s := by
  rcases (mem_text_iff hc _).1 h with hroot | ⟨q, hq, hmem⟩
  · rcases rootOf_cases s with hs | hs | hs <;>
      simp [parse, hs, ne_slash_of_notMem hc] at hroot
  · have hsub := @Text.subset_join ['/'] _ _ (List.mem_filter.1 hq).1
    rw [Text.join_splitOn] at hsub
    exact hsub hmem

/-- Such a character in the second of two paths is one in both together. -/
theorem mem_text_join (p : Path) {s : Text} (h : c ∈ s) : c ∈ (p.join (parse s)).text := by
  obtain ⟨q, hq, hmem⟩ := mem_parts_parse hc h
  refine (mem_text_iff hc _).2 (.inr ⟨q, ?_, hmem⟩)
  unfold join
  split
  · exact List.mem_append_right _ hq
  · exact hq

end Characters

/-- The file of a script in a folder. -/
def fileFor (dest : Path) (script : Sieve.Script) : Path :=
  ⟨dest.root, dest.parts ++ [scriptFileName script.name]⟩

theorem OnWay.fileFor {dest : Path} {t : Text} (h : dest.OnWay t) (script : Sieve.Script) :
    (dest.fileFor script).OnWay t :=
  OnWay.mono (List.prefix_append dest.parts _) h

/-- Such a character on the way to a file is in the folder or in the name of the script. -/
theorem OnWay.mem_cases {dest : Path} {script : Sieve.Script} {t : Text}
    (h : (dest.fileFor script).OnWay t) {c : Char} (hc : c ∉ ownChars) (hmem : c ∈ t) :
    c ∈ dest.text ∨ c ∈ script.name := by
  obtain ⟨qs, hqs, rfl⟩ := h
  rcases (mem_text_iff hc _).1 hmem with hroot | ⟨q, hq, hmem⟩
  · exact .inl ((mem_text_iff hc _).2 (.inl hroot))
  · rcases List.mem_append.1 (hqs.subset hq) with hq | hq
    · exact .inl ((mem_text_iff hc _).2 (.inr ⟨q, hq, hmem⟩))
    · rw [List.mem_singleton.1 hq] at hmem
      rcases mem_scriptFileName hmem with hname | ⟨hname, -⟩
      · exact absurd (List.mem_cons_of_mem _ hname) hc
      · exact .inr hname

end Path

/-- Folders are made one after the other at the ends of such paths. -/
def Disk.MakesFolders (base : Location) (P : Text → Prop) : Disk → Disk → Prop :=
  Relation.ReflTransGen fun d d' => ∃ path, P path ∧ Disk.makeFolder d base path = .ok d'

namespace Run

variable [Platform] {α β : Type} {P : Text → Prop}

/-! ## Characters that no path may have -/

/-- The null character, and a half that no name can hold. -/
def IsBarred (c : Char) : Prop := Text.isNameless c = true ∨ c = '\x00'

theorem IsBarred.notMem_ownChars {c : Char} (h : IsBarred c) : c ∉ Path.ownChars := by
  rcases h with hnameless | rfl
  · intro hmem
    have hlow : ∀ k ∈ Path.ownChars, k.toNat < 0xF0000 := by decide
    have hhalf := Text.isHalf_of_isNameless hnameless
    rw [Text.isHalf_eq_false (hlow c hmem)] at hhalf
    cases hhalf
  · decide

theorem pathFault?_cases (path : Text) :
    pathFault? path = some .unencodable ∧ (∃ c ∈ path, Text.isNameless c = true) ∨
    pathFault? path = some .unusablePath ∧ '\x00' ∈ path ∨
    pathFault? path = none ∧ ∀ c ∈ path, ¬ IsBarred c := by
  unfold pathFault?
  by_cases hnameless : path.any Text.isNameless = true
  · exact .inl ⟨if_pos hnameless, List.any_eq_true.1 hnameless⟩
  · rw [if_neg hnameless]
    by_cases hnull : path.contains '\x00' = true
    · exact .inr (.inl ⟨if_pos hnull, by simpa using hnull⟩)
    · refine .inr (.inr ⟨if_neg hnull, fun c hc hbarred => ?_⟩)
      rcases hbarred with hc' | rfl
      · exact hnameless (List.any_eq_true.2 ⟨c, hc, hc'⟩)
      · exact hnull (by simpa using hc)

theorem pathFault?_eq_none_iff {path : Text} :
    pathFault? path = none ↔ ∀ c ∈ path, ¬ IsBarred c := by
  rcases pathFault?_cases path with ⟨h, c, hc, hnameless⟩ | ⟨h, hnull⟩ | ⟨h, hnone⟩
  · simpa [h] using ⟨c, hc, .inl hnameless⟩
  · simpa [h] using ⟨_, hnull, .inr rfl⟩
  · simpa [h] using hnone

theorem exists_isBarred {path : Text} {e : Failure} (h : pathFault? path = some e) :
    ∃ c ∈ path, IsBarred c := by
  by_contra hnone
  have hgood : pathFault? path = none :=
    pathFault?_eq_none_iff.2 fun c hc hbarred => hnone ⟨c, hc, hbarred⟩
  rw [hgood] at h
  cases h

/-- No run goes on after such a character. -/
theorem isTolerable_of_pathFault? {path : Text} {e : Failure} (h : pathFault? path = some e) :
    e.isTolerable = false := by
  rcases pathFault?_cases path with ⟨h', -⟩ | ⟨h', -⟩ | ⟨h', -⟩ <;> rw [h] at h' <;> cases h' <;>
    rfl

/-! ## Refusals -/

theorem asked_eq_ok {query : Disk → Location → Text → Except DiskFault α} {path : Text}
    {s : Setting} {d : Disk} {a : α} (h : asked query path s d = .ok a) :
    query d s.base path = .ok a := by
  unfold asked at h
  split at h
  · cases h
  · cases hquery : query d s.base path with
    | ok b => simpa [hquery, Except.mapError] using h
    | error fault => simp [hquery, Except.mapError] at h

/-- What an operation on such paths may fail with: a fault of the disk, or one of a path. -/
def Refused (P : Text → Prop) (e : Failure) : Prop :=
  (∃ fault path, e = .disk fault path) ∨ ∃ path, P path ∧ pathFault? path = some e

theorem Refused.mono {Q : Text → Prop} (hPQ : ∀ t, P t → Q t) {e : Failure}
    (h : Refused P e) : Refused Q e := by
  rcases h with hdisk | ⟨path, hpath, hfault⟩
  · exact .inl hdisk
  · exact .inr ⟨path, hPQ path hpath, hfault⟩

theorem refused_of_asked {query : Disk → Location → Text → Except DiskFault α} {path : Text}
    (hpath : P path) {s : Setting} {d : Disk} {e : Failure}
    (h : asked query path s d = .error e) : Refused P e := by
  unfold asked at h
  split at h
  next e' hfault =>
    obtain rfl := Except.error.inj h
    exact .inr ⟨path, hpath, hfault⟩
  · cases hquery : query d s.base path with
    | ok a => simp [hquery, Except.mapError] at h
    | error fault =>
      simp only [hquery, Except.mapError, Except.error.injEq] at h
      exact .inl ⟨fault, path, h.symm⟩

/-- When neither the folder nor the name of a script has a barred character, only the disk can
refuse. -/
theorem Refused.isTolerable {dest : Path} {script : Sieve.Script} {e : Failure}
    (h : Refused (dest.fileFor script).OnWay e) (hdest : pathFault? dest.text = none)
    (hname : ∀ c ∈ script.name, ¬ IsBarred c) : e.isTolerable = true := by
  rcases h with ⟨fault, path, rfl⟩ | ⟨path, hpath, hfault⟩
  · rfl
  · obtain ⟨c, hc, hbarred⟩ := exists_isBarred hfault
    rcases hpath.mem_cases hbarred.notMem_ownChars hc with hc | hc
    · exact absurd hbarred (pathFault?_eq_none_iff.1 hdest c hc)
    · exact absurd hbarred (hname c hc)

/-! ## Making folders -/

/-- From this world the run only makes folders at the ends of such paths, and it fails only when it
is refused something. -/
structure MakesOnly (P : Text → Prop) (run : Run α) (s : Setting) (w : World) : Prop where
  makes : Disk.MakesFolders s.base P w.disk (run.start s w).2.disk
  refused : ∀ e, (run.start s w).1 = .error e → Refused P e

theorem MakesOnly.mono {Q : Text → Prop} (hPQ : ∀ t, P t → Q t) {run : Run α} {s : Setting}
    {w : World} (h : MakesOnly P run s w) : MakesOnly Q run s w := by
  constructor
  · refine Relation.ReflTransGen.mono ?_ _ _ h.makes
    rintro x y ⟨path, hpath, hmade⟩
    exact ⟨path, hPQ path hpath, hmade⟩
  · intro e he
    exact (h.refused e he).mono hPQ

theorem makesOnly_pure (a : α) (s : Setting) (w : World) : MakesOnly P (pure a : Run α) s w := by
  constructor
  · exact .refl
  · intro e he
    cases he

theorem makesOnly_throw {e : Failure} (h : Refused P e) (s : Setting) (w : World) :
    MakesOnly P (throw e : Run α) s w := by
  constructor
  · exact .refl
  · intro e' he
    obtain rfl : e = e' := Except.error.inj he
    exact h

theorem MakesOnly.bind {x : Run α} {y : α → Run β} {s : Setting} {w : World}
    (h : MakesOnly P x s w) (hafter : ∀ a w', MakesOnly P (y a) s w') :
    MakesOnly P (x >>= y) s w := by
  have hmakes := h.makes
  have hrefused := h.refused
  rcases hx : x.start s w with ⟨e | a, w'⟩
  · rw [hx] at hmakes hrefused
    constructor
    · rwa [start_bind_error hx]
    · rw [start_bind_error hx]
      intro e' he
      obtain rfl : e = e' := Except.error.inj he
      exact hrefused e rfl
  · rw [hx] at hmakes
    constructor
    · rw [start_bind_ok hx]
      exact hmakes.trans (hafter a w').makes
    · rw [start_bind_ok hx]
      exact (hafter a w').refused

theorem MakesOnly.tryCatch {x : Run α} {y : Failure → Run α} {s : Setting} {w : World}
    (h : MakesOnly P x s w) (hafter : ∀ e w', Refused P e → MakesOnly P (y e) s w') :
    MakesOnly P (tryCatch x y) s w := by
  have hmakes := h.makes
  have hrefused := h.refused
  rcases hx : x.start s w with ⟨e | a, w'⟩
  · rw [hx] at hmakes hrefused
    have hrest := hafter e w' (hrefused e rfl)
    constructor
    · rw [start_tryCatch, hx]
      exact hmakes.trans hrest.makes
    · rw [start_tryCatch, hx]
      exact hrest.refused
  · rw [hx] at hmakes hrefused
    constructor
    · rwa [start_tryCatch, hx]
    · rwa [start_tryCatch, hx]

theorem makesOnly_makeFolder {path : Text} (hpath : P path) (s : Setting) (w : World) :
    MakesOnly P (makeFolder path) s w := by
  obtain ⟨j, hj⟩ := actsAs_makeFolder path s w
  cases hasked : asked Disk.makeFolder path s w.disk with
  | error e =>
    simp only [hasked, stored] at hj
    constructor
    · rw [hj]
      exact .refl
    · intro e' he
      rw [hj] at he
      obtain rfl : e = e' := Except.error.inj he
      exact refused_of_asked hpath hasked
  | ok d' =>
    simp only [hasked, stored] at hj
    constructor
    · rw [hj]
      exact .single ⟨path, hpath, asked_eq_ok hasked⟩
    · intro e he
      rw [hj] at he
      cases he

theorem makesOnly_look (path : Text) (s : Setting) (w : World) : MakesOnly P (look path) s w := by
  obtain ⟨j, hj⟩ := actsAs_look path s w
  constructor
  · rw [hj]
    exact .refl
  · intro e he
    rw [hj] at he
    simp only [looked] at he
    split at he
    · cases he
    · split at he
      · cases he
      · cases he
      · cases he
      · exact .inl ⟨_, path, (Except.error.inj he).symm⟩

theorem makesOnly_orFolder (path : Text) {e : Failure} (he : Refused P e) (s : Setting)
    (w : World) : MakesOnly P (orFolder path e) s w := by
  unfold orFolder
  split
  · refine (makesOnly_look path s w).bind fun item w' => ?_
    split
    · exact makesOnly_pure () s w'
    · exact makesOnly_throw he s w'
  · exact makesOnly_throw he s w

theorem makesOnly_ensureFolder {path : Text} (hpath : P path) (s : Setting) (w : World) :
    MakesOnly P (ensureFolder path) s w := by
  refine (makesOnly_makeFolder hpath s w).tryCatch fun e w' he => ?_
  split
  · exact makesOnly_throw he s w'
  · exact makesOnly_orFolder path he s w'

/-- Only folders on the way are made. -/
theorem makesOnly_ensureFolders (root : Text) (parts : List Text) (s : Setting) (w : World) :
    MakesOnly (Path.OnWay ⟨root, parts.reverse⟩) (ensureFolders root parts) s w := by
  induction parts generalizing w with
  | nil => exact makesOnly_ensureFolder (Path.onWay_text ⟨root, []⟩) s w
  | cons part above ih =>
    have hpath := Path.onWay_text ⟨root, (part :: above).reverse⟩
    refine (makesOnly_makeFolder hpath s w).tryCatch fun e w' he => ?_
    split
    · -- the folder above comes first, and then the folder itself is tried once more
      have habove := (ih w').mono (Q := Path.OnWay ⟨root, (part :: above).reverse⟩)
        fun t ht => ht.mono (by simp)
      exact habove.bind fun _ w'' => makesOnly_ensureFolder hpath s w''
    · exact makesOnly_orFolder _ he s w'

/-- A path with a barred character is refused before anything is made. -/
theorem start_ensureFolders_of_pathFault? {p : Path} {e : Failure}
    (h : pathFault? p.text = some e) (s : Setting) (w : World) :
    ((ensureFolders p.root p.parts.reverse).start s w).1 = .error e := by
  obtain ⟨j, hj⟩ := actsAs_makeFolder p.text s w
  simp only [asked, h, stored] at hj
  have hfatal := isTolerable_of_pathFault? h
  obtain ⟨root, parts⟩ := p
  cases hparts : parts.reverse with
  | nil =>
    obtain rfl : parts = [] := by simpa using hparts
    simp only [ensureFolders, ensureFolder, start_tryCatch, hj]
    cases e with
    | disk fault path => cases hfatal
    | _ => rfl
  | cons part above =>
    obtain rfl : (part :: above).reverse = parts := by rw [← hparts, List.reverse_reverse]
    simp only [ensureFolders, start_tryCatch, hj]
    cases e with
    | disk fault path => cases hfatal
    | _ => rfl

/-! ## Seeing only the disk -/

theorem silent_orFolder (path : Text) (e : Failure) : Silent (orFolder path e) := by
  unfold orFolder
  split
  · refine (actsAs_look path).silent.bind fun item => ?_
    split
    · exact silent_pure ()
    · exact silent_throw _
  · exact silent_throw e

theorem silent_ensureFolder (path : Text) : Silent (ensureFolder path) := by
  refine (actsAs_makeFolder path).silent.tryCatch fun e => ?_
  split
  · exact silent_throw _
  · exact silent_orFolder path e

theorem silent_ensureFolders (root : Text) (parts : List Text) :
    Silent (ensureFolders root parts) := by
  induction parts with
  | nil => exact silent_ensureFolder _
  | cons part above ih =>
    refine (actsAs_makeFolder _).silent.tryCatch fun e => ?_
    split
    · exact ih.bind fun _ => silent_ensureFolder _
    · exact silent_orFolder _ e

/-! ## Storing one script -/

/-- How a text ends up in a file. -/
def writtenText (path text : Text) (s : Setting) (d : Disk) : Except Failure Unit × Disk :=
  match Text.Utf8.encode? text with
  | some bytes => stored (asked (fun d base p => Disk.write d base p bytes) path s d) d
  | none =>
    match asked (fun d base p => Disk.write d base p []) path s d with
    | .ok d' => (.error .unencodable, d')
    | .error e => (.error e, d)

theorem actsAs_writeText (path text : Text) :
    ActsAs (writeText path text) (writtenText path text) := by
  unfold writeText writtenText
  cases Text.Utf8.encode? text with
  | some bytes => exact actsAs_writeBytes path bytes
  | none =>
    refine ((actsAs_writeBytes path []).bind fun _ => actsAs_throw .unencodable).congr fun s d => ?_
    simp only [andThen, stored]
    cases asked (fun d base p => Disk.write d base p []) path s d <;> rfl

theorem actsAs_writeScript (dest : Path) (script : Sieve.Script) :
    ActsAs (writeScript dest script)
      (andThen (writtenText (dest.fileFor script).text script.content) fun _ _ d =>
        (.ok (dest.fileFor script).text, d)) :=
  (actsAs_writeText _ _).bind fun _ => (actsAs_note _ _).bind fun _ => actsAs_pure _

theorem silent_writeScripts (scripts : List Sieve.Script) (dest : Path) :
    Silent (writeScripts scripts dest) := by
  refine (silent_ensureFolders _ _).bind fun _ => ?_
  induction scripts with
  | nil => exact silent_pure []
  | cons script scripts ih =>
    rw [List.mapM_cons]
    exact (actsAs_writeScript dest script).silent.bind fun _ => ih.bind fun _ => silent_pure _

theorem onDisk_writeScripts_singleton (script : Sieve.Script) (dest : Path) (s : Setting)
    (d : Disk) :
    (writeScripts [script] dest).onDisk s d =
      andThen (ensureFolders dest.root dest.parts.reverse).onDisk (fun _ =>
        andThen (writtenText (dest.fileFor script).text script.content) fun _ _ d =>
          (.ok [(dest.fileFor script).text], d)) s d := by
  have hwrite : ActsAs ([script].mapM (writeScript dest))
      (andThen (writtenText (dest.fileFor script).text script.content) fun _ _ d =>
        (.ok [(dest.fileFor script).text], d)) := by
    rw [List.mapM_cons, List.mapM_nil]
    refine ((actsAs_writeScript dest script).bind fun path => actsAs_pure [path]).congr
      fun s d => ?_
    simp only [andThen]
    rcases writtenText (dest.fileFor script).text script.content s d with ⟨_ | _, _⟩ <;> rfl
  have hrun : ActsAs (writeScripts [script] dest) _ :=
    ActsAs.bind (silent_ensureFolders dest.root dest.parts.reverse) fun _ => hwrite
  rw [hrun.onDisk_eq]

/-- What storing a script comes to on a disk to which its folders were added. -/
inductive Stores (script : Sieve.Script) (dest : Path) (s : Setting) (d : Disk) :
    Except Failure (List Text) × Disk → Prop
  | refused {e : Failure} : Refused (dest.fileFor script).OnWay e →
      Stores script dest s d (.error e, d)
  | written {bytes : List UInt8} {d' : Disk} : Text.Utf8.encode? script.content = some bytes →
      Disk.write d s.base (dest.fileFor script).text bytes = .ok d' →
      Stores script dest s d (.ok [(dest.fileFor script).text], d')
  | emptied {d' : Disk} : Text.Utf8.encode? script.content = none →
      Disk.write d s.base (dest.fileFor script).text [] = .ok d' →
      Stores script dest s d (.error .unencodable, d')

/-- Either nothing more has happened to the disk, or the file was written. -/
theorem Stores.disk_cases {script : Sieve.Script} {dest : Path} {s : Setting} {d : Disk}
    {r : Except Failure (List Text) × Disk} (h : Stores script dest s d r) :
    r.2 = d ∨ ∃ bytes, Disk.write d s.base (dest.fileFor script).text bytes = .ok r.2 := by
  cases h with
  | refused _ => exact .inl rfl
  | written _ hwrite => exact .inr ⟨_, hwrite⟩
  | emptied _ hwrite => exact .inr ⟨_, hwrite⟩

theorem stores_writtenText (script : Sieve.Script) (dest : Path) (s : Setting) (d : Disk) :
    Stores script dest s d
      (andThen (writtenText (dest.fileFor script).text script.content) (fun _ _ d =>
        (.ok [(dest.fileFor script).text], d)) s d) := by
  have hfile := Path.onWay_text (dest.fileFor script)
  cases hencode : Text.Utf8.encode? script.content with
  | some bytes =>
    simp only [andThen, writtenText, hencode, stored]
    cases hasked : asked (fun d base p => Disk.write d base p bytes)
        (dest.fileFor script).text s d with
    | ok d' => exact .written hencode (asked_eq_ok hasked)
    | error e => exact .refused (refused_of_asked hfile hasked)
  | none =>
    simp only [andThen, writtenText, hencode]
    cases hasked : asked (fun d base p => Disk.write d base p [])
        (dest.fileFor script).text s d with
    | ok d' => exact .emptied hencode (asked_eq_ok hasked)
    | error e => exact .refused (refused_of_asked hfile hasked)

/-- Folders are made first. Then the script is written, unless something is refused. -/
theorem stores_writeScripts (script : Sieve.Script) (dest : Path) (s : Setting) (d : Disk) :
    ∃ d₁, Disk.MakesFolders s.base dest.OnWay d d₁ ∧
      Stores script dest s d₁ ((writeScripts [script] dest).onDisk s d) := by
  have hmakes := makesOnly_ensureFolders dest.root dest.parts.reverse s ⟨d, 0, [], []⟩
  rw [List.reverse_reverse] at hmakes
  have hrefused := hmakes.refused
  refine ⟨_, hmakes.makes, ?_⟩
  rw [onDisk_writeScripts_singleton, andThen, onDisk]
  rcases hensure : (ensureFolders dest.root dest.parts.reverse).start s ⟨d, 0, [], []⟩ with
    ⟨e | _, w⟩
  · rw [hensure] at hrefused
    exact .refused ((hrefused e rfl).mono fun t ht => ht.fileFor script)
  · exact stores_writtenText script dest s w.disk

/-- A script that is stored stands in its file. -/
theorem read_of_writeScripts {script : Sieve.Script} {dest : Path} {s : Setting} {d d' : Disk}
    {paths : List Text} (h : (writeScripts [script] dest).onDisk s d = (.ok paths, d')) :
    Disk.read d' s.base (dest.fileFor script).text = .ok (Text.Utf8.encode script.content) := by
  obtain ⟨d₁, -, hstores⟩ := stores_writeScripts script dest s d
  rw [h] at hstores
  cases hstores with
  | written hencode hwrite => rw [Disk.read_of_write hwrite, Text.Utf8.eq_of_encode? hencode]

/-- A barred character on the way to the folder is refused. -/
theorem outcome_writeScripts_of_pathFault? {dest : Path} {e : Failure}
    (h : pathFault? dest.text = some e) (scripts : List Sieve.Script) (s : Setting) (d : Disk) :
    ((writeScripts scripts dest).onDisk s d).1 = .error e := by
  have hensure := start_ensureFolders_of_pathFault? h s ⟨d, 0, [], []⟩
  simp only [onDisk, writeScripts]
  rw [start_bind_error (Prod.ext hensure rfl)]

/-- A script that cannot be encoded is stored like an empty one, and then the run fails. -/
theorem onDisk_writeScripts_of_unencodable {script : Sieve.Script}
    (h : Text.Utf8.encode? script.content = none) (dest : Path) (s : Setting) (d : Disk) :
    (writeScripts [script] dest).onDisk s d =
      andThen (writeScripts [⟨script.name, []⟩] dest).onDisk
        (fun _ _ d => (.error .unencodable, d)) s d := by
  have hempty : Text.Utf8.encode? [] = some [] := rfl
  have hfile : dest.fileFor ⟨script.name, []⟩ = dest.fileFor script := rfl
  rw [onDisk_writeScripts_singleton]
  simp only [andThen, onDisk_writeScripts_singleton]
  rcases (ensureFolders dest.root dest.parts.reverse).onDisk s d with ⟨_ | _, d₁⟩
  · rfl
  · simp only [writtenText, h, hempty, stored, hfile]
    cases asked (fun d base p => Disk.write d base p []) (dest.fileFor script).text s d₁ <;> rfl

end Run

end MailFilter
