import MailFilter.Proofs.Effects
import Mathlib.Data.List.Basic

/-!
# Loading filter files

Loading only reads. What a file gives depends on its path, its bytes and the character set: filter
text gives a filter set once it is decoded, and a document gives one unless it is faulty. A document
that breaks the format, or whose top level is no mapping, concerns its own file only. The faults
that end a run are bytes that the decoder gives up, scalars that are well written and yet have no
value, and values that are read as text and cannot be shown.
-/
namespace MailFilter

namespace Run

/-! ## Decoding -/

theorem actsAs_decodeAs (decode? : Text.Charset → List UInt8 → Option Text) (charset : Text)
    (bytes : List UInt8) :
    ActsAs (decodeAs decode? charset bytes) fun s d => (decodedAs decode? charset bytes s, d) := by
  intro s w
  refine ⟨w.journal, ?_⟩
  unfold decodeAs
  rw [start_reading, start_ofExcept]

theorem decodedAs_error {decode? : Text.Charset → List UInt8 → Option Text} {charset : Text}
    {bytes : List UInt8} {s : Setting} {e : Failure} (hc : ∃ c, s.charset charset = .ok c)
    (h : decodedAs decode? charset bytes s = .error e) : e = .undecodable := by
  obtain ⟨c, hc⟩ := hc
  simp only [decodedAs, hc] at h
  split at h
  · cases h
  · exact (Except.error.inj h).symm

/-- What the bytes of filter text say. -/
def sourceText (charset : Text) (bytes : List UInt8) (s : Setting) : Except Failure Text :=
  if bytes.isEmpty then .ok [] else decodedAs (·.decode?) charset bytes s

theorem actsAs_decodeSource (charset : Text) (bytes : List UInt8) :
    ActsAs (if bytes.isEmpty then pure [] else decodeAs (·.decode?) charset bytes)
      fun s d => (sourceText charset bytes s, d) := by
  unfold sourceText
  cases bytes.isEmpty with
  | true => exact actsAs_pure []
  | false => exact actsAs_decodeAs _ charset bytes

theorem sourceText_error {charset : Text} {bytes : List UInt8} {s : Setting} {e : Failure}
    (hc : ∃ c, s.charset charset = .ok c) (h : sourceText charset bytes s = .error e) :
    e = .undecodable := by
  unfold sourceText at h
  split at h
  · cases h
  · exact decodedAs_error hc h

theorem actsAs_givenSet (x : Except Failure FilterSet) :
    ActsAs (match x with | .ok fs => pure fs | .error f => throw f : Run FilterSet)
      fun _ d => (x, d) := by
  cases x with
  | ok fs => exact actsAs_pure fs
  | error f => exact actsAs_throw f

end Run

variable [Platform]

/-! ## Values that are read as text -/

namespace Record

variable {α β : Type}

/-- The reading succeeds when all the values can be shown, and otherwise it fails for the first
obstacle in them. -/
structure Shows (x : Except Failure α) (vs : List Value) : Prop where
  ok_of_none : vs.findSome? Value.obstacle? = none → ∃ a, x = .ok a
  error_of_some : ∀ o, vs.findSome? Value.obstacle? = some o → x = .error o.failure

theorem shows_of_none (a : α) {vs : List Value} (h : vs.findSome? Value.obstacle? = none) :
    Shows (.ok a) vs := by
  refine ⟨fun _ => ⟨a, rfl⟩, fun o ho => ?_⟩
  rw [h] at ho
  cases ho

theorem shows_ok (a : α) : Shows (.ok a) [] := shows_of_none a rfl

theorem Shows.bind {x : Except Failure α} {f : α → Except Failure β} {vs ws : List Value}
    (hx : Shows x vs) (hf : ∀ a, Shows (f a) ws) : Shows (x >>= f) (vs ++ ws) := by
  cases hvs : vs.findSome? Value.obstacle? with
  | some o =>
    rw [hx.error_of_some o hvs]
    refine ⟨fun hnone => ?_, fun p hp => ?_⟩
    · simp [List.findSome?_append, hvs] at hnone
    · obtain rfl : o = p := by simpa [List.findSome?_append, hvs] using hp
      rfl
  | none =>
    obtain ⟨a, rfl⟩ := hx.ok_of_none hvs
    have hrest := hf a
    constructor
    · intro hnone
      exact hrest.ok_of_none (by simpa [List.findSome?_append, hvs] using hnone)
    · intro o ho
      exact hrest.error_of_some o (by simpa [List.findSome?_append, hvs] using ho)

theorem Shows.map {x : Except Failure α} {vs : List Value} (hx : Shows x vs) (f : α → β) :
    Shows (x.map f) vs := by
  constructor
  · intro hnone
    obtain ⟨a, rfl⟩ := hx.ok_of_none hnone
    exact ⟨f a, rfl⟩
  · intro o ho
    rw [hx.error_of_some o ho]
    rfl

theorem shows_mapM {f : α → Except Failure β} {texts : α → List Value}
    (hf : ∀ a, Shows (f a) (texts a)) (xs : List α) : Shows (xs.mapM f) (xs.flatMap texts) := by
  induction xs with
  | nil => exact shows_ok []
  | cons x xs ih =>
    rw [List.mapM_cons, List.flatMap_cons]
    refine (hf x).bind fun y => ?_
    rw [← List.append_nil (xs.flatMap texts)]
    exact ih.bind fun ys => shows_ok (y :: ys)

/-- Every failure is that of the first obstacle. -/
theorem Shows.exists_obstacle {x : Except Failure α} {vs : List Value} (hx : Shows x vs)
    {e : Failure} (h : x = .error e) :
    ∃ o, vs.findSome? Value.obstacle? = some o ∧ e = o.failure := by
  cases hvs : vs.findSome? Value.obstacle? with
  | none =>
    obtain ⟨a, ha⟩ := hx.ok_of_none hvs
    rw [h] at ha
    cases ha
  | some o => exact ⟨o, rfl, Except.error.inj (h.symm.trans (hx.error_of_some o hvs))⟩

theorem shows_textOf (v : Value) : Shows (textOf v) [v] := by
  unfold textOf Value.toText?
  constructor
  · intro hnone
    have hv : v.obstacle? = none := by simpa using hnone
    exact ⟨v.toText, by simp only [hv, Except.mapError]⟩
  · intro o ho
    have hv : v.obstacle? = some o := by simpa using ho
    simp only [hv, Except.mapError]

theorem shows_textOr (default : Text) (v : Value) : Shows (textOr default v) [v] := by
  unfold textOr
  split
  · exact shows_of_none _ rfl
  · exact shows_textOf v

theorem shows_destOf (v : Value) : Shows (destOf v) [v] := by
  unfold destOf
  split
  · exact shows_of_none _ rfl
  · exact (shows_textOf v).map some

/-- What is shown to find out whether a filter is switched on. Integers are compared instead. -/
def enabledTexts : Value → List Value
  | .int _ => []
  | v => [v]

theorem shows_isEnabled (v : Value) : Shows (isEnabled v) (enabledTexts v) := by
  unfold isEnabled
  split
  · exact shows_of_none _ rfl
  · exact shows_of_none _ rfl
  · exact shows_of_none _ rfl
  · exact shows_of_none _ rfl
  next _ _ _ hint _ =>
    have htexts : enabledTexts v = [v] := enabledTexts.eq_2 v hint
    rw [htexts]
    exact (shows_textOf v).map _

/-- The values under some keys. -/
def valuesOf (fs : Fields) (keys : List Text) : List Value := keys.map (Value.get fs)

def ruleTexts (fs : Fields) : List Value :=
  valuesOf fs ["part".toList, "match".toList, "val".toList, "opt".toList]

def actionTexts (fs : Fields) : List Value := valuesOf fs ["action".toList, "dest".toList]

def entryTexts (fs : Fields) : List Value :=
  valuesOf fs ["filtername".toList] ++ (enabledTexts (Value.get fs "enabled".toList) ++
    ((records fs "rules".toList).flatMap ruleTexts ++
      (records fs "actions".toList).flatMap actionTexts))

/-- The values in a record that are read as text. -/
def recordTexts (fs : Fields) : List Value :=
  (records fs "filter".toList).flatMap entryTexts ++ valuesOf fs ["version".toList]

theorem shows_ruleOf (fs : Fields) : Shows (ruleOf fs) (ruleTexts fs) :=
  (shows_textOr _ _).bind fun _ => (shows_textOr _ _).bind fun _ =>
    (shows_textOr _ _).bind fun _ => (shows_textOr _ _).bind fun _ => shows_ok _

theorem shows_actionOf (fs : Fields) : Shows (actionOf fs) (actionTexts fs) :=
  (shows_textOr _ _).bind fun _ => (shows_destOf _).bind fun _ => shows_ok _

theorem shows_entryOf (fs : Fields) : Shows (entryOf fs) (entryTexts fs) := by
  refine (shows_textOr _ _).bind fun name => (shows_isEnabled _).bind fun enabled =>
    (shows_mapM shows_ruleOf _).bind fun rules => ?_
  rw [← List.append_nil (List.flatMap _ _)]
  exact (shows_mapM shows_actionOf _).bind fun actions => shows_ok _

theorem shows_ofFields (fs : Fields) : Shows (FilterSet.ofFields fs) (recordTexts fs) :=
  (shows_mapM shows_entryOf _).bind fun _ => (shows_textOr _ _).bind fun _ => shows_ok _

end Record

/-- The faults of a document that end a run: a scalar without a value, nesting too deep to follow,
or a value that is read as text and cannot be shown. -/
def Failure.IsScalarFault (f : Failure) : Prop :=
  (∃ g, g ≠ Yaml.Fault.invalid ∧ f = .document g) ∨ ∃ o : Value.Obstacle, f = o.failure

theorem FilterSet.parseDocument_error {s : Text} {f : Failure}
    (h : FilterSet.parseDocument s = .error f) : (∃ g, f = .load g) ∨ f.IsScalarFault := by
  unfold FilterSet.parseDocument readRecord at h
  split at h
  next v hv =>
    change FilterSet.ofValue v = .error f at h
    unfold FilterSet.ofValue at h
    split at h
    · cases h
    · split at h
      next fs hfs =>
        obtain ⟨o, -, ho⟩ := (Record.shows_ofFields fs).exists_obstacle h
        exact .inr (.inr ⟨o, ho⟩)
      · exact .inl ⟨_, (Except.error.inj h).symm⟩
  · exact .inl ⟨_, (Except.error.inj h).symm⟩
  next g hinvalid _ => exact .inr (.inl ⟨g, hinvalid, (Except.error.inj h).symm⟩)

namespace Run

variable {α β : Type}

/-! ## Loading -/

theorem reading_readBytes (path : Text) : Reading (readBytes path) := reading_ask _ _

/-- What is done with the bytes of a file once they are read. -/
theorem actsAs_afterReading {path : Text} {y : List UInt8 → Run α}
    {f : List UInt8 → Setting → Except Failure α}
    (h : ∀ bytes, ActsAs (y bytes) fun s d => (f bytes s, d)) :
    ActsAs (readBytes path >>= y) fun s d => ((asked Disk.read path s d).bind (f · s), d) := by
  refine ((actsAs_ask Disk.read path).bind h).congr fun s d => ?_
  simp only [andThen]
  cases asked Disk.read path s d <;> rfl

theorem loadSource_eq (path encoding : Text) :
    loadSource path encoding = (do
      let bytes ← readBytes path
      refuse (charsetFault? encoding)
      (if bytes.isEmpty then pure [] else decodeAs (·.decode?) encoding bytes) >>= fun text => do
        report (FilterSet.parseJournal text)
        return FilterSet.parse text) := by
  unfold loadSource
  congr 1
  funext bytes
  cases bytes <;> rfl

theorem reading_loadSource (path encoding : Text) : Reading (loadSource path encoding) := by
  rw [loadSource_eq]
  exact (reading_readBytes path).bind fun bytes => (reading_refuse _).bind fun _ =>
    (actsAs_decodeSource encoding bytes).reading.bind fun text => (reading_report _).bind
      fun _ => reading_pure _

theorem reading_loadDocument (path encoding : Text) : Reading (loadDocument path encoding) :=
  (reading_refuse _).bind fun _ => (reading_readBytes path).bind fun bytes =>
    (actsAs_decodeAs _ _ bytes).reading.bind fun _ => (reading_report _).bind fun _ =>
      (actsAs_givenSet _).reading

theorem reading_loadFilters (path encoding : Text) : Reading (loadFilters path encoding) := by
  simp only [loadFilters]
  split
  · exact reading_loadDocument _ _
  · exact reading_loadSource _ _

/-- What a file with the given bytes holds. -/
def filtersIn (encoding : Text) (path : Path) (bytes : List UInt8) (s : Setting) :
    Except Failure FilterSet :=
  if isDocumentPath path then
    (decodedAs (·.decodeFile?) (documentCharset encoding) bytes s).bind fun text =>
      FilterSet.parseDocument (Text.unifyLineEnds text)
  else (sourceText encoding bytes s).map FilterSet.parse

/-- The name belongs to a character set, for filter text and for documents alike. -/
structure KnownCharset (s : Setting) (encoding : Text) : Prop where
  usable : charsetFault? encoding = none
  source : ∃ c, s.charset encoding = .ok c
  document : ∃ c, s.charset (documentCharset encoding) = .ok c

/-- Under a name that can be looked up, loading a file reads its bytes and takes from them what the
path says they hold. -/
theorem outcome_loadFilters {encoding : Text} (h : charsetFault? encoding = none) (path : Text)
    (s : Setting) (d : Disk) :
    (loadFilters path encoding).outcome s d =
      (asked Disk.read (Path.parse path).text s d).bind
        fun bytes => filtersIn encoding (Path.parse path) bytes s := by
  have hgo : refuse (charsetFault? encoding) = pure () := by rw [h, refuse]
  simp only [loadFilters, filtersIn]
  by_cases hdocument : isDocumentPath (Path.parse path) = true
  · simp only [if_pos hdocument]
    unfold loadDocument
    rw [hgo, pure_bind]
    refine outcome_of_actsAs (actsAs_afterReading (f := fun bytes s =>
      (decodedAs (·.decodeFile?) (documentCharset encoding) bytes s).bind fun text =>
        FilterSet.parseDocument (Text.unifyLineEnds text)) fun bytes => ?_) s d
    refine ((actsAs_decodeAs _ _ bytes).bind fun text => (actsAs_report _).bind fun _ =>
      actsAs_givenSet _).congr fun s d => ?_
    simp only [andThen]
    cases decodedAs (·.decodeFile?) (documentCharset encoding) bytes s <;> rfl
  · simp only [if_neg hdocument]
    rw [loadSource_eq, hgo]
    simp only [pure_bind]
    refine outcome_of_actsAs (actsAs_afterReading (f := fun bytes s =>
      (sourceText encoding bytes s).map FilterSet.parse) fun bytes => ?_) s d
    refine ((actsAs_decodeSource encoding bytes).bind fun text => (actsAs_report _).bind fun _ =>
      actsAs_pure _).congr fun s d => ?_
    simp only [andThen]
    cases sourceText encoding bytes s <;> rfl

/-- A file under a known character set holds no filters because its bytes cannot be decoded, because
its document breaks the format, or because of a scalar. -/
theorem KnownCharset.filtersIn_error {s : Setting} {encoding : Text} (hc : KnownCharset s encoding)
    {path : Path} {bytes : List UInt8} {e : Failure}
    (h : filtersIn encoding path bytes s = .error e) :
    e = .undecodable ∨ (∃ g, e = .load g) ∨ e.IsScalarFault := by
  unfold filtersIn at h
  split at h
  · cases hdecoded : decodedAs (·.decodeFile?) (documentCharset encoding) bytes s with
    | error e' =>
      rw [hdecoded] at h
      obtain rfl : e' = e := Except.error.inj h
      exact .inl (decodedAs_error hc.document hdecoded)
    | ok text =>
      rw [hdecoded] at h
      exact .inr (FilterSet.parseDocument_error h)
  · cases hdecoded : sourceText encoding bytes s with
    | error e' =>
      rw [hdecoded] at h
      obtain rfl : e' = e := Except.error.inj h
      exact .inl (sourceText_error hc.source hdecoded)
    | ok text =>
      rw [hdecoded] at h
      cases h

end Run

end MailFilter
