import MailFilter.Proofs.NormalForm
import MailFilter.Proofs.Printing

/-!
# Quoted strings in filter text and in scripts

Filter text and scripts write quoted strings in the same way, but each has a reader of its own. In a
script a string is cut out with its escapes, and one without an end is a fault; in filter text the
escapes are resolved, and a string without an end is none. Both readers stop at the same quote: what
the one for filter text finds is the shortest beginning that the one for scripts takes for a single
string, without its quotes and escapes, and where the one finds nothing the other meets a string
without an end. A quoted text is therefore read back by both, in front of any other text.
-/
namespace MailFilter

theorem Text.ofNat_injective : Function.Injective Text.ofNat := by
  have hread : Function.LeftInverse (Nat.ofDigitChars 10 · 0) Text.ofNat :=
    fun _ => Nat.ofDigitChars_ten_toDigits
  exact hread.injective

namespace Sieve

namespace Token

/-! ## Faults -/

/-- The names of what can be left open start with different characters. -/
theorem Open.eq_of_name_append {j k : Open} {s t : Text} (h : j.name ++ s = k.name ++ t) :
    j = k := by
  have hne (o : Open) : o.name ≠ [] := by cases o <;> decide
  have hhead : j.name.head? = k.name.head? := by
    rw [← List.head?_append_of_ne_nil _ (hne j), h, List.head?_append_of_ne_nil _ (hne k)]
  revert hhead
  cases j <;> cases k <;> decide

/-- The message about a fault tells what was left open and where. -/
theorem Unterminated.message_eq_iff {u : Unterminated} {n : Nat} {k : Open} {i : Nat} :
    u.message n = "unterminated ".toList ++ k.name ++ " at offset ".toList ++ Text.ofNat i ↔
      u.kind = k ∧ u.offset n = i := by
  constructor
  · intro h
    unfold message at h
    simp only [List.append_assoc] at h
    have hnames := List.append_cancel_left h
    have hkind : u.kind = k := Open.eq_of_name_append hnames
    rw [hkind] at hnames
    have hdigits := List.append_cancel_left (List.append_cancel_left hnames)
    exact ⟨hkind, Text.ofNat_injective hdigits⟩
  · rintro ⟨rfl, rfl⟩
    rfl

/-- A string that starts a text is the first fault of the text exactly when it has no end. -/
theorem scan_unterminated_iff (s : Text) :
    (∃ u, scan ('"' :: s) = .error u ∧
        u.message ('"' :: s).length = "unterminated string at offset 0".toList) ↔
      stringBody? s = none := by
  have hmessage : "unterminated string at offset 0".toList =
      "unterminated ".toList ++ Open.string.name ++ " at offset ".toList ++ Text.ofNat 0 := by
    decide
  rw [hmessage]
  constructor
  · rintro ⟨u, hu, heq⟩
    have hoffset : ('"' :: s).length - u.remaining = 0 := (Unterminated.message_eq_iff.1 heq).2
    cases hbody : stringBody? s with
    | none => rfl
    | some p =>
      -- A later fault starts behind the string, so its place is not the start of the text.
      rw [scan_string hbody] at hu
      have hremaining := remaining_le_length (map_eq_error hu)
      have hlength := length_stringBody? hbody
      rw [List.length_cons] at hoffset
      omega
  · intro hbody
    refine ⟨_, scan_open_string hbody, Unterminated.message_eq_iff.2 ⟨rfl, ?_⟩⟩
    rw [Unterminated.offset, List.length_cons, Nat.sub_self]

/-! ## The string at the start of a text -/

/-- The text is read as one string and nothing else. -/
def IsString (q : Text) : Prop := ∃ b, scan q = .ok [string b]

/-- The shortest beginning of a text that is read as one string. -/
structure LeadingString (s q : Text) : Prop where
  isPrefix : q <+: s
  isString : IsString q
  shortest : ∀ t, t <+: s → IsString t → q.length ≤ t.length

theorem LeadingString.unique {s q r : Text} (hq : LeadingString s q) (hr : LeadingString s r) :
    q = r := by
  have hle : q.length ≤ r.length := hq.shortest r hr.isPrefix hr.isString
  have hge : r.length ≤ q.length := hr.shortest q hq.isPrefix hq.isString
  exact (List.prefix_of_prefix_length_le hq.isPrefix hr.isPrefix hle).eq_of_length_le hge

/-- A beginning that is read as one string reaches to a closing quote. -/
theorem exists_stringBody?_of_isString {s t : Text} (ht : t <+: '"' :: s) (hstring : IsString t) :
    ∃ b r, stringBody? s = some (b, r) ∧ (string b).text <+: t := by
  obtain ⟨b, hscan⟩ := hstring
  obtain rfl | ⟨u, rfl, v, rfl⟩ := List.prefix_cons_iff.1 ht
  · rw [scan_nil] at hscan
    cases hscan
  · cases hbody : stringBody? u with
    | none =>
      rw [scan_open_string hbody] at hscan
      cases hscan
    | some p =>
      refine ⟨p.1, p.2 ++ v, stringBody?_append_right hbody v, p.2, ?_⟩
      simp [text, stringBody?_eq hbody]

/-- The string at the start of a text ends at its closing quote. -/
theorem leadingString_of_stringBody? {s b r : Text} (h : stringBody? s = some (b, r)) :
    LeadingString ('"' :: s) (string b).text where
  isPrefix := ⟨r, by simp [text, stringBody?_eq h]⟩
  isString := by
    have hformed : ∀ t ∈ [string b], t.WellFormed :=
      List.forall_mem_singleton.2 (isBody_of_stringBody? h)
    exact ⟨b, scan_layout hformed []⟩
  shortest := by
    intro t ht hstring
    obtain ⟨b', r', hbody, hle⟩ := exists_stringBody?_of_isString ht hstring
    obtain ⟨rfl, -⟩ := Prod.mk.inj (Option.some.inj (h.symm.trans hbody))
    exact hle.length_le

theorem leadingString_iff {s q : Text} :
    LeadingString ('"' :: s) q ↔ ∃ b r, stringBody? s = some (b, r) ∧ q = (string b).text := by
  constructor
  · intro hq
    obtain ⟨b, r, hbody, -⟩ := exists_stringBody?_of_isString hq.isPrefix hq.isString
    exact ⟨b, r, hbody, hq.unique (leadingString_of_stringBody? hbody)⟩
  · rintro ⟨b, r, hbody, rfl⟩
    exact leadingString_of_stringBody? hbody

end Token

/-! ## What a string stands for -/

/-- A string without its quotes, and without the backslash of each escape. -/
def contents (q : Text) : Text := unescape q.tail.dropLast

@[simp] theorem contents_text (b : Text) : contents (Token.string b).text = unescape b := by
  simp [contents, Token.text]

@[simp] theorem contents_quote (v : Text) : contents (quote v) = v :=
  (contents_text (v.flatMap quoteChar)).trans (unescape_escaped v)

theorem quote_injective : Function.Injective quote :=
  Function.LeftInverse.injective contents_quote

/-- A quoted text is the string at the start of what it is put in front of. -/
theorem leadingString_quote_append (v t : Text) :
    Token.LeadingString (quote v ++ t) (quote v) := by
  have htext : quote v ++ t = '"' :: (v.flatMap quoteChar ++ '"' :: t) := by simp [quote]
  rw [htext]
  exact Token.leadingString_of_stringBody? (Token.stringBody?_flatMap_quoteChar v t)

end Sieve

namespace Clause

open Sieve Sieve.Token

/-- The reader of filter text finds the contents of the string at the start of the script text. -/
theorem firstQuoted_of_leadingString {p r q : Text} (hp : '"' ∉ p)
    (hq : LeadingString ('"' :: r) q) : firstQuoted (p ++ '"' :: r) = some (contents q) := by
  obtain ⟨b, t, hbody, rfl⟩ := leadingString_iff.1 hq
  rw [firstQuoted_append hp, quotedBody_of_stringBody? hbody, contents_text]

theorem firstQuoted_eq_none_iff {p : Text} (hp : '"' ∉ p) (r : Text) :
    firstQuoted (p ++ '"' :: r) = none ↔ stringBody? r = none := by
  rw [firstQuoted_append hp, quotedBody_eq_map, Option.map_eq_none_iff]

/-- The two readers of quoted strings agree. Behind a text without quotes, the one for filter text
finds nothing exactly when the one for scripts complains that the string has no end; otherwise there
is one shortest beginning that is read as a single string, and its contents are what is found. Both
read a quoted text back, whatever follows it, so different texts are quoted differently. -/
theorem firstQuoted_agrees_scan {p : Text} (hp : '"' ∉ p) :
    (∀ r,
        (firstQuoted (p ++ '"' :: r) = none ↔
          ∃ u, scan ('"' :: r) = .error u ∧
            u.message ('"' :: r).length = "unterminated string at offset 0".toList) ∧
        (firstQuoted (p ++ '"' :: r) ≠ none → ∃! q, LeadingString ('"' :: r) q) ∧
        ∀ q, LeadingString ('"' :: r) q → firstQuoted (p ++ '"' :: r) = some (contents q)) ∧
      (∀ v t, firstQuoted (p ++ quote v ++ t) = some v ∧
        LeadingString (quote v ++ t) (quote v) ∧ contents (quote v) = v) ∧
      Function.Injective quote := by
  refine ⟨fun r => ⟨?_, fun hfound => ?_, fun q hq => firstQuoted_of_leadingString hp hq⟩,
    fun v t => ?_, quote_injective⟩
  · rw [firstQuoted_eq_none_iff hp, scan_unterminated_iff]
  · rw [Ne, firstQuoted_eq_none_iff hp] at hfound
    obtain ⟨⟨b, t⟩, hbody⟩ := Option.ne_none_iff_exists'.1 hfound
    have hleading := leadingString_of_stringBody? hbody
    exact ⟨_, hleading, fun q hq => hq.unique hleading⟩
  · exact ⟨firstQuoted_append_quote hp v t, leadingString_quote_append v t, contents_quote v⟩

/-- A string with an escaped quote and an escaped backslash in front of the start of another one, a
string that breaks off behind a backslash, and a quoted text in front of a quote. -/
theorem firstQuoted_agrees_scan_escapes :
    let p := "$header_subject: is ".toList
    let q := "\"a\\\"b\\\\\"".toList
    let cut := "\"a\\\"b\\".toList
    '"' ∉ p ∧
      LeadingString (q ++ " or \"".toList) q ∧
      firstQuoted (p ++ (q ++ " or \"".toList)) = some "a\"b\\".toList ∧
      scan cut = .error ⟨.string, 6⟩ ∧ firstQuoted (p ++ cut) = none ∧
      firstQuoted (p ++ quote "a\"b\\".toList ++ "\"".toList) = some "a\"b\\".toList := by
  intro p q cut
  have hp : '"' ∉ p := by decide
  have hleading : LeadingString (q ++ " or \"".toList) q :=
    leadingString_of_stringBody? (b := "a\\\"b\\\\".toList) (r := " or \"".toList) rfl
  have hcut : scan cut = .error ⟨.string, 6⟩ := by decide +kernel
  obtain ⟨hread, hquoted, -⟩ := firstQuoted_agrees_scan hp
  have hfound := (hread _).2.2 q hleading
  have hnone := (hread _).1.2 ⟨_, hcut, by decide⟩
  exact ⟨hp, hleading, hfound, hcut, hnone, (hquoted _ _).1⟩

end Clause

end MailFilter
