import MailFilter.Disk.Basic
import MailFilter.Proofs.Characters
import MailFilter.Proofs.Pieces
import Mathlib.Data.List.Basic

/-!
# Places on a disk

A path names a place: the one that its steps lead to, where a step up takes back the step before
it. Following a path, making a folder and writing a file all end at the place that the path names,
and making and writing change nothing but this place. The text of a normal path names the place
that its parts lead to.
-/
namespace MailFilter

namespace Disk

/-! ## What a change leaves alone -/

theorem lookup_cons_eq (l k : Location) (i : Item) (items : List (Location × Item)) :
    ((k, i) :: items).lookup l = if l = k then some i else items.lookup l := by
  by_cases h : l = k
  · simp [h]
  · have hne : (l == k) = false := beq_false_of_ne h
    simp [List.lookup_cons, hne, h]

@[simp] theorem lookup_setItem (loc : Location) (item : Item) (items : List (Location × Item))
    (l : Location) :
    (setItem loc item items).lookup l = if l = loc then some item else items.lookup l := by
  induction items with
  | nil => simp only [setItem, lookup_cons_eq]
  | cons p items ih =>
    obtain ⟨k, i⟩ := p
    by_cases hk : k = loc
    · simp only [setItem, hk, beq_self_eq_true, if_true, lookup_cons_eq]
      split <;> rfl
    · have hne : (k == loc) = false := beq_false_of_ne hk
      simp only [setItem, hne, Bool.false_eq_true, if_false, lookup_cons_eq, ih]
      by_cases h : l = k
      · simp [h, hk]
      · simp [h]

theorem find?_set (d : Disk) {loc : Location} (h : loc ≠ []) (item : Item) (l : Location) :
    (d.set loc item).find? l = if l = loc then some item else d.find? l := by
  cases l with
  | nil => simp [find?, h.symm]
  | cons n l => simp [find?, set]

@[simp] theorem find?_set_self (d : Disk) {loc : Location} (h : loc ≠ []) (item : Item) :
    (d.set loc item).find? loc = some item := by
  rw [find?_set d h, if_pos rfl]

@[simp] theorem find?_set_of_ne (d : Disk) {loc l : Location} (h : loc ≠ []) (item : Item)
    (hl : l ≠ loc) : (d.set loc item).find? l = d.find? l := by
  rw [find?_set d h, if_neg hl]

/-! ## Following steps -/

/-- Where a step leads. -/
def move (loc : Location) : Step → Location
  | .stay => loc
  | .up => loc.dropLast
  | .into name => loc ++ [name]

/-- Where a path starts. -/
def origin (base : Location) (path : Text) : Location := if isAbsolute path then [] else base

/-- The place that a path names. -/
def target (base : Location) (path : Text) : Location :=
  (steps path).foldl move (origin base path)

/-- The step can be taken from a place. -/
def CanTake (d : Disk) (loc : Location) : Step → Prop
  | .into name => isLongName name = false ∧ (d.find? (loc ++ [name])).isSome = true
  | _ => True

/-- Every step needs a folder to stand in and a place to lead to. -/
theorem walk_cons_eq_ok {d : Disk} {loc l : Location} {s : Step} {ss : List Step} :
    walk d loc (s :: ss) = .ok l ↔
      d.find? loc = some .folder ∧ CanTake d loc s ∧ walk d (move loc s) ss = .ok l := by
  rw [walk.eq_def]
  rcases h : d.find? loc with _ | _ | _
  · simp [h]
  · simp [h]
  · cases s with
    | stay => simp [h, CanTake, move]
    | up => simp [h, CanTake, move]
    | into name =>
      by_cases hlong : isLongName name = true
      · simp [h, CanTake, hlong]
      · by_cases hthere : (d.find? (loc ++ [name])).isSome = true
        · simp [h, CanTake, move, hlong, hthere]
        · simp [h, CanTake, hlong, hthere]

/-- Steps lead where they say. -/
theorem walk_eq {d : Disk} {loc l : Location} {ss : List Step} (h : walk d loc ss = .ok l) :
    l = ss.foldl move loc := by
  induction ss generalizing loc with
  | nil =>
    simp only [walk, Except.ok.injEq] at h
    simp [h]
  | cons s ss ih => exact ih (walk_cons_eq_ok.1 h).2.2

theorem walk_append_eq_ok {d : Disk} {loc l : Location} {ss ts : List Step} :
    walk d loc (ss ++ ts) = .ok l ↔ ∃ k, walk d loc ss = .ok k ∧ walk d k ts = .ok l := by
  induction ss generalizing loc with
  | nil => simp [walk]
  | cons s ss ih =>
    rw [List.cons_append, walk_cons_eq_ok, ih]
    simp only [walk_cons_eq_ok]
    constructor
    · rintro ⟨hfolder, htake, k, hk, hl⟩
      exact ⟨k, ⟨hfolder, htake, hk⟩, hl⟩
    · rintro ⟨k, ⟨hfolder, htake, hk⟩, hl⟩
      exact ⟨hfolder, htake, k, hk, hl⟩

theorem CanTake.set {d : Disk} {loc x : Location} {s : Step} (h : CanTake d loc s) (hx : x ≠ [])
    (item : Item) : CanTake (d.set x item) loc s := by
  cases s with
  | stay => trivial
  | up => trivial
  | into name =>
    refine ⟨h.1, ?_⟩
    rw [find?_set d hx]
    split
    · rfl
    · exact h.2

/-- Only folders are passed, so a file that is put on the disk is in nobody's way. -/
theorem walk_set {d : Disk} {loc l x : Location} {ss : List Step} (hx : x ≠ [])
    (hfolder : d.find? x ≠ some .folder) (bytes : List UInt8) (h : walk d loc ss = .ok l) :
    walk (d.set x (.file bytes)) loc ss = .ok l := by
  induction ss generalizing loc with
  | nil => exact h
  | cons s ss ih =>
    obtain ⟨hloc, htake, hrest⟩ := walk_cons_eq_ok.1 h
    have hne : loc ≠ x := fun heq => hfolder (heq ▸ hloc)
    refine walk_cons_eq_ok.2 ⟨?_, htake.set hx _, ih hrest⟩
    simp [hx, hne, hloc]

/-! ## Making folders and writing files -/

theorem follow_eq_ok {d : Disk} {base l : Location} {path : Text} {ss : List Step} :
    follow d base path ss = .ok l ↔
      path ≠ [] ∧ isLongPath path = false ∧ walk d (origin base path) ss = .ok l := by
  unfold follow
  by_cases hempty : path = []
  · simp [hempty]
  · by_cases hlong : isLongPath path = true
    · simp [hempty, hlong]
    · simp [hempty, hlong, origin]

/-- The last step of a path is taken into a name, in a folder. -/
structure LastStep (d : Disk) (base : Location) (path : Text) (loc : Location) (name : Text) :
    Prop where
  folderOf_eq : folderOf d base path = .ok loc
  getLast?_eq : (steps path).getLast? = some (.into name)

theorem folderOf_eq_ok {d : Disk} {base l : Location} {path : Text}
    (h : folderOf d base path = .ok l) :
    walk d (origin base path) (steps path).dropLast = .ok l ∧ d.find? l = some .folder := by
  obtain ⟨k, hk, hstay⟩ := walk_append_eq_ok.1 (follow_eq_ok.1 h).2.2
  obtain ⟨hfolder, -, hl⟩ := walk_cons_eq_ok.1 hstay
  obtain rfl : k = l := by simpa [walk, move] using hl
  exact ⟨hk, hfolder⟩

namespace LastStep

variable {d : Disk} {base loc : Location} {path name : Text}

theorem steps_eq (h : LastStep d base path loc name) :
    steps path = (steps path).dropLast ++ [.into name] :=
  (List.dropLast_append_getLast? _ h.getLast?_eq).symm

theorem target_eq (h : LastStep d base path loc name) : target base path = loc ++ [name] := by
  have hloc := walk_eq (folderOf_eq_ok h.folderOf_eq).1
  rw [target, h.steps_eq, List.foldl_append, ← hloc]
  rfl

end LastStep

/-- A folder is made at the place that the path names, where nothing was before. -/
theorem makeFolder_eq_ok {d d' : Disk} {base : Location} {path : Text}
    (h : makeFolder d base path = .ok d') :
    target base path ≠ [] ∧ d.find? (target base path) = none ∧
      d' = d.set (target base path) .folder := by
  unfold makeFolder at h
  split at h
  · cases h
  next loc hloc =>
    split at h
    next name hlast =>
      split_ifs at h with hlong hthere
      rw [LastStep.target_eq ⟨hloc, hlast⟩]
      exact ⟨by simp, by simpa using hthere, (Except.ok.inj h).symm⟩
    · cases h

theorem write_cases {d d' : Disk} {base : Location} {path : Text} {bytes : List UInt8}
    (h : write d base path bytes = .ok d') :
    ∃ loc name, LastStep d base path loc name ∧ isLongName name = false ∧
      d.find? (loc ++ [name]) ≠ some .folder ∧ d' = d.set (loc ++ [name]) (.file bytes) := by
  unfold write at h
  split at h
  · cases h
  next loc hloc =>
    split at h
    next name hlast =>
      split_ifs at h with hlong hthere
      exact ⟨loc, name, ⟨hloc, hlast⟩, by simpa using hlong, hthere, (Except.ok.inj h).symm⟩
    · cases h

/-- A file is written at the place that the path names, where no folder was before. -/
theorem write_eq_ok {d d' : Disk} {base : Location} {path : Text} {bytes : List UInt8}
    (h : write d base path bytes = .ok d') :
    target base path ≠ [] ∧ d.find? (target base path) ≠ some .folder ∧
      d' = d.set (target base path) (.file bytes) := by
  obtain ⟨loc, name, hlast, -, hfolder, hd'⟩ := write_cases h
  rw [hlast.target_eq]
  exact ⟨by simp, hfolder, hd'⟩

/-- What was written is read back. -/
theorem read_of_write {d d' : Disk} {base : Location} {path : Text} {bytes : List UInt8}
    (h : write d base path bytes = .ok d') : read d' base path = .ok bytes := by
  obtain ⟨loc, name, hlast, hlong, hfolder, rfl⟩ := write_cases h
  obtain ⟨hempty, hlongPath, -⟩ := follow_eq_ok.1 hlast.folderOf_eq
  obtain ⟨hwalk, hloc⟩ := folderOf_eq_ok hlast.folderOf_eq
  have hx : loc ++ [name] ≠ [] := by simp
  have hfile := find?_set_self d hx (.file bytes)
  -- the way to the folder is as before, and the last step finds the file
  have hstep : walk (d.set (loc ++ [name]) (.file bytes)) loc [.into name] =
      .ok (loc ++ [name]) := by
    have hne : loc ≠ loc ++ [name] := by simp
    refine walk_cons_eq_ok.2 ⟨by simp [hx, hne, hloc], ⟨hlong, ?_⟩, rfl⟩
    rw [hfile]
    rfl
  have hfollow : follow (d.set (loc ++ [name]) (.file bytes)) base path (steps path) =
      .ok (loc ++ [name]) := by
    refine follow_eq_ok.2 ⟨hempty, hlongPath, ?_⟩
    rw [hlast.steps_eq]
    exact walk_append_eq_ok.2 ⟨loc, walk_set hx hfolder bytes hwalk, hstep⟩
  rw [read, stat, hfollow]
  simp only [hfile]

end Disk

/-! ## Normal paths -/

namespace Path

/-- What stands between the slashes of a normal path. -/
structure IsPart (q : Text) : Prop where
  ne_nil : q ≠ []
  ne_dot : q ≠ ['.']
  slash_notMem : '/' ∉ q

/-- The form of every path that was read from a text. -/
structure Normal (p : Path) : Prop where
  root_cases : p.root = [] ∨ p.root = ['/'] ∨ p.root = ['/', '/']
  parts : ∀ q ∈ p.parts, IsPart q

theorem rootOf_cases (s : Text) : rootOf s = [] ∨ rootOf s = ['/'] ∨ rootOf s = ['/', '/'] := by
  unfold rootOf
  split
  · exact .inl rfl
  · exact .inr (.inr rfl)
  · exact .inr (.inl rfl)

@[simp] theorem normal_parse (s : Text) : (parse s).Normal := by
  refine ⟨rootOf_cases s, fun q hq => ?_⟩
  obtain ⟨hmem, hkept⟩ := List.mem_filter.1 hq
  simp only [Bool.and_eq_true, Bool.not_eq_true', List.isEmpty_eq_false_iff, bne_iff_ne] at hkept
  refine ⟨hkept.1, hkept.2, fun hslash => ?_⟩
  simpa using Text.not_of_mem_splitWhere hmem '/' hslash

theorem Normal.join {p q : Path} (hp : p.Normal) (hq : q.Normal) : (p.join q).Normal := by
  unfold Path.join
  split
  · refine ⟨hp.root_cases, fun x hx => ?_⟩
    rcases List.mem_append.1 hx with hx | hx
    · exact hp.parts x hx
    · exact hq.parts x hx
  · exact hq

theorem Normal.of_subset {p : Path} (h : p.Normal) {qs : List Text} (hqs : qs ⊆ p.parts) :
    Normal ⟨p.root, qs⟩ :=
  ⟨h.root_cases, fun q hq => h.parts q (hqs hq)⟩

theorem Normal.concat {p : Path} (h : p.Normal) {q : Text} (hq : IsPart q) :
    Normal ⟨p.root, p.parts ++ [q]⟩ := by
  refine ⟨h.root_cases, fun x hx => ?_⟩
  rcases List.mem_append.1 hx with hx | hx
  · exact h.parts x hx
  · exact List.mem_singleton.1 hx ▸ hq

/-- The place that the parts of a path lead to. -/
def place (base : Location) (p : Path) : Location :=
  (p.parts.map Disk.stepOf).foldl Disk.move (if p.root.isEmpty then base else [])

theorem text_eq {p : Path} (hne : p.parts ≠ []) :
    p.text = p.root ++ Text.join ['/'] p.parts := by
  rw [text, if_neg]
  simp [hne]

section Text

variable {p : Path} (h : p.Normal)
include h

theorem Normal.takeWhile_join : (Text.join ['/'] p.parts).takeWhile (· == '/') = [] := by
  obtain ⟨root, parts⟩ := p
  cases parts with
  | nil => rfl
  | cons q qs =>
    have hq := h.parts q (by simp)
    obtain ⟨c, r, rfl⟩ := List.exists_cons_of_ne_nil hq.ne_nil
    have hc : c ≠ '/' := fun heq => hq.slash_notMem (by simp [heq])
    by_cases hqs : qs = []
    · simp [hqs, Text.join, hc]
    · simp [Text.join_cons hqs, hc]

/-- Between the slashes of a normal path stand its parts. -/
theorem Normal.filter_splitOn (hne : p.parts ≠ []) :
    (Text.splitOn '/' p.text).filter (! ·.isEmpty) = p.parts := by
  have hjoin : Text.splitOn '/' (Text.join ['/'] p.parts) = p.parts :=
    Text.splitOn_join_of_not_mem hne fun q hq => (h.parts q hq).slash_notMem
  have hfilter : p.parts.filter (! ·.isEmpty) = p.parts := by
    rw [List.filter_eq_self]
    intro q hq
    simpa using (h.parts q hq).ne_nil
  have hslash (s : Text) : Text.splitOn '/' ('/' :: s) = [] :: Text.splitOn '/' s :=
    Text.splitWhere_cons_pos (by decide) s
  rw [text_eq hne]
  rcases h.root_cases with hroot | hroot | hroot
  · simp [hroot, hjoin, hfilter]
  · simp [hroot, hslash, hjoin, hfilter]
  · simp [hroot, hslash, hjoin, hfilter]

@[simp] theorem Normal.takeWhile_text : p.text.takeWhile (· == '/') = p.root := by
  by_cases hne : p.parts = []
  · obtain ⟨root, parts⟩ := p
    subst hne
    rcases h.root_cases with rfl | rfl | rfl <;> rfl
  · have hjoin := h.takeWhile_join
    rw [text_eq hne]
    rcases h.root_cases with hroot | hroot | hroot <;> simp [hroot, hjoin]

@[simp] theorem Normal.isAbsolute_text : Disk.isAbsolute p.text = !p.root.isEmpty := by
  rw [← h.takeWhile_text]
  cases p.text with
  | nil => rfl
  | cons c s =>
    by_cases hc : c = '/'
    · simp [Disk.isAbsolute, Text.startsWith, hc]
    · have hne : ('/' == c) = false := beq_false_of_ne (Ne.symm hc)
      simp [Disk.isAbsolute, Text.startsWith, List.isPrefixOf, hc, hne]

/-- The text of a normal path names the place of the path. -/
@[simp] theorem Normal.target_text (base : Location) : Disk.target base p.text = p.place base := by
  by_cases hne : p.parts = []
  · obtain ⟨root, parts⟩ := p
    subst hne
    rcases h.root_cases with rfl | rfl | rfl <;> rfl
  · have horigin : Disk.origin base p.text = if p.root.isEmpty then base else [] := by
      rw [Disk.origin, h.isAbsolute_text]
      cases p.root.isEmpty <;> rfl
    -- a slash at the end would only ask to stay
    have hend (loc : Location) : (if Text.endsWith p.text ['/'] then [.stay] else []).foldl
        Disk.move loc = loc := by
      split <;> rfl
    rw [Disk.target, Disk.steps, h.filter_splitOn hne, horigin, List.foldl_append, hend, place]

end Text

/-! ## The file of a script -/

theorem suffix_scriptFileName (name : Text) : ".sieve".toList <:+ scriptFileName name :=
  List.suffix_append _ _

theorem mem_scriptFileName {c : Char} {name : Text} (h : c ∈ scriptFileName name) :
    c ∈ "_unnamed.sieve".toList ∨ c ∈ name ∧ c ≠ '/' := by
  rcases List.mem_append.1 h with hc | hc
  · split at hc
    · exact .inl (List.mem_append_left ".sieve".toList hc)
    · obtain ⟨b, hb, rfl⟩ := List.mem_map.1 (Text.trim_subset _ hc)
      by_cases hslash : b == '/' || b == '\\'
      · rw [if_pos hslash]
        exact .inl (by decide)
      · rw [if_neg hslash]
        simp only [Bool.or_eq_true, beq_iff_eq, not_or] at hslash
        exact .inr ⟨hb, hslash.1⟩
  · exact .inl (List.mem_append_right "_unnamed".toList hc)

@[simp] theorem isPart_scriptFileName (name : Text) : IsPart (scriptFileName name) := by
  have hlength : 6 ≤ (scriptFileName name).length := (suffix_scriptFileName name).length_le
  refine ⟨?_, ?_, ?_⟩
  · intro h
    simp [h] at hlength
  · intro h
    simp [h] at hlength
  · intro h
    rcases mem_scriptFileName h with hc | ⟨-, hc⟩
    · exact absurd hc (by decide)
    · exact hc rfl

@[simp] theorem stepOf_scriptFileName (name : Text) :
    Disk.stepOf (scriptFileName name) = .into (scriptFileName name) := by
  have hpart := isPart_scriptFileName name
  have hlength : 6 ≤ (scriptFileName name).length := (suffix_scriptFileName name).length_le
  have hup : scriptFileName name ≠ ['.', '.'] := by
    intro h
    simp [h] at hlength
  simp [Disk.stepOf, hpart.ne_nil, hpart.ne_dot, hup]

end Path

end MailFilter
