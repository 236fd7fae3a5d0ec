import TenantAuth.Contact
import TenantAuth.Proofs.Text.Casing
import TenantAuth.Proofs.Text.Listing

/-!
Contacts in the one spelling that is kept of them.

However a mail address is written, what is kept of it is without blanks and in lower case. This is
an address itself, and it is kept as it is. It has a colon in it where one was written. What is kept
of a phone number is a plus sign and digits, which is kept as it is as well.

Which texts are contacts is said by what they look like: an address is a name and a host around the
only at sign, once the blanks around it are gone; a phone number is seven to fifteen digits behind a
plus sign, once all blanks and hyphens are gone.
-/

namespace TenantAuth

open Text (isBlank isMark)

/-- Trimming takes away nothing but blanks. -/
theorem Text.mem_trim_iff {c : Char} {cs : List Char} (hc : isBlank c = false) :
    c ∈ trim cs ↔ c ∈ cs := by
  have hdrop (cs : List Char) : c ∈ cs.dropWhile isBlank ↔ c ∈ cs := by
    have hkept : c ∉ cs.takeWhile isBlank := fun h => by
      have hblank := List.all_eq_true.1 (List.all_takeWhile (p := isBlank) (l := cs)) c h
      rw [hc] at hblank
      cases hblank
    have hsplit : c ∈ cs.takeWhile isBlank ++ cs.dropWhile isBlank ↔ c ∈ cs := by
      rw [List.takeWhile_append_dropWhile]
    rw [← hsplit, List.mem_append, or_iff_right hkept]
  rw [trim, trimEnd, trimStart, List.mem_reverse, hdrop, List.mem_reverse, hdrop]

namespace Text

variable {cs inner : List Char}

/-- What a text has between the blanks around it. -/
structure Surrounds (cs inner : List Char) : Prop where
  eq : ∃ before after, cs = before ++ inner ++ after ∧ ∀ c ∈ before ++ after, isBlank c = true
  head_not_blank : ∀ c, inner.head? = some c → isBlank c = false
  last_not_blank : ∀ c, inner.getLast? = some c → isBlank c = false

/-- Blanks at the start of a text are dropped, up to what starts with none. -/
theorem dropWhile_blanks {before : List Char} (hbefore : ∀ c ∈ before, isBlank c = true)
    (hrest : ∀ c, inner.head? = some c → isBlank c = false) :
    (before ++ inner).dropWhile isBlank = inner := by
  rw [List.dropWhile_append_of_pos hbefore]
  cases inner with
  | nil => rfl
  | cons c rest => rw [List.dropWhile_cons, hrest c rfl, if_neg Bool.false_ne_true]

/-- What blanks are dropped from starts with none. -/
theorem head_dropWhile_blank {c : Char} (h : (cs.dropWhile isBlank).head? = some c) :
    isBlank c = false := by
  have hnot := List.head?_dropWhile_not isBlank cs
  rw [h] at hnot
  simpa using hnot

/-- Trimming leaves what stands between the blanks, and nothing else stands there. -/
theorem surrounds_iff : Surrounds cs inner ↔ trim cs = inner := by
  constructor
  · rintro ⟨⟨before, after, rfl, hblank⟩, hhead, hlast⟩
    have hbefore : ∀ c ∈ before, isBlank c = true :=
      fun c hc => hblank c (List.mem_append_left _ hc)
    have hafter : ∀ c ∈ after.reverse, isBlank c = true := fun c hc =>
      hblank c (List.mem_append_right _ (List.mem_reverse.1 hc))
    cases inner with
    | nil =>
      have hall : (before ++ after ++ []).dropWhile isBlank = [] := dropWhile_blanks hblank nofun
      rw [List.append_nil] at hall
      rw [trim, trimStart, List.append_nil, hall]
      rfl
    | cons first rest =>
      have hend : ∀ c, (first :: rest).reverse.head? = some c → isBlank c = false := by
        rw [List.head?_reverse]
        exact hlast
      have hstart : ∀ c, (first :: rest ++ after).head? = some c → isBlank c = false := hhead
      rw [trim, trimStart, List.append_assoc, dropWhile_blanks hbefore hstart, trimEnd,
        List.reverse_append, dropWhile_blanks hafter hend, List.reverse_reverse]
  · rintro rfl
    have hstart : cs.takeWhile isBlank ++ trimStart cs = cs := List.takeWhile_append_dropWhile
    have hend : trim cs ++ ((trimStart cs).reverse.takeWhile isBlank).reverse = trimStart cs := by
      rw [trim, trimEnd, ← List.reverse_append, List.takeWhile_append_dropWhile,
        List.reverse_reverse]
    have hkept (cs : List Char) : ∀ c ∈ cs.takeWhile isBlank, isBlank c = true :=
      List.all_eq_true.1 List.all_takeWhile
    refine ⟨⟨_, _, (by rw [List.append_assoc, hend, hstart]), fun c hc => ?_⟩, fun c hc => ?_,
      fun c hc => ?_⟩
    · rcases List.mem_append.1 hc with hc | hc
      · exact hkept _ c hc
      · exact hkept _ c (List.mem_reverse.1 hc)
    · -- What is left starts where the text does that only its last blanks are missing from.
      have hfirst : (cs.dropWhile isBlank).head? = some c := by
        change (trimStart cs).head? = some c
        rw [← hend, List.head?_append, hc]
        rfl
      exact head_dropWhile_blank hfirst
    · rw [trim, trimEnd, List.getLast?_reverse] at hc
      exact head_dropWhile_blank hc

end Text

namespace EmailAddress

variable {s : String} {e : EmailAddress} {cs : List Char}

/-- What an address looks like: a name and a host around the only at sign, and no blanks. -/
structure HasForm (cs name host : List Char) : Prop where
  eq : cs = name ++ '@' :: host
  name_ne_nil : name ≠ []
  host_ne_nil : host ≠ []
  notMem_name : '@' ∉ name
  notMem_host : '@' ∉ host
  not_blank : ∀ c ∈ cs, isBlank c = false

/-- A text is read up to its first at sign. -/
theorem isWellFormed_append {name host : List Char} (hname : '@' ∉ name) :
    isWellFormed (name ++ '@' :: host) =
      (!name.isEmpty && !host.isEmpty && !host.contains '@' &&
        !(name ++ '@' :: host).any isBlank) := by
  have hother (c : Char) (hc : c ∈ name) : decide (c ≠ '@') = true :=
    decide_eq_true fun heq => hname (heq ▸ hc)
  have htake : (name ++ '@' :: host).takeWhile (· ≠ '@') = name := by
    rw [List.takeWhile_append_of_pos hother]
    simp
  rw [isWellFormed, htake, List.drop_left]

theorem isWellFormed_of_notMem (h : '@' ∉ cs) : isWellFormed cs = false := by
  have hother (c : Char) (hc : c ∈ cs) : decide (c ≠ '@') = true :=
    decide_eq_true fun heq => h (heq ▸ hc)
  have htake : cs.takeWhile (· ≠ '@') = cs := by
    have happend : (cs ++ []).takeWhile (· ≠ '@') = cs ++ [].takeWhile (· ≠ '@') :=
      List.takeWhile_append_of_pos hother
    simpa using happend
  rw [isWellFormed, htake, List.drop_length]

theorem isWellFormed_iff : isWellFormed cs = true ↔ ∃ name host, HasForm cs name host := by
  constructor
  · intro h
    have hat : '@' ∈ cs :=
      Decidable.byContradiction fun hnone => by simp [isWellFormed_of_notMem hnone] at h
    obtain ⟨name, host, rfl, hname⟩ := List.eq_append_cons_of_mem hat
    simp only [isWellFormed_append hname, Bool.and_eq_true, Bool.not_eq_true',
      List.isEmpty_eq_false_iff, List.contains_eq_mem, decide_eq_false_iff_not, List.any_eq_false,
      Bool.not_eq_true] at h
    obtain ⟨⟨⟨hne, hne'⟩, hnotHost⟩, hblank⟩ := h
    exact ⟨name, host, rfl, hne, hne', hname, hnotHost, hblank⟩
  · rintro ⟨name, host, rfl, hne, hne', hname, hnotHost, hblank⟩
    have hnone : (name ++ '@' :: host).any isBlank = false :=
      List.any_eq_false.2 fun c hc => by simp [hblank c hc]
    rw [isWellFormed_append hname]
    simp [hne, hne', hnotHost, hnone]

/-- What is kept of an address has its form. -/
theorem HasForm.lowerAfter {name host : List Char} (h : HasForm cs name host) :
    ∃ name' host', HasForm (Text.lowerAfter [] cs) name' host' := by
  obtain ⟨rfl, hname, hhost, hnotName, hnotHost, hblank⟩ := h
  have hat : isMark '@' = true := by decide
  obtain ⟨name', heq, hnil, hmem⟩ := Text.lowerAfter_append_mark [] name host hat
  refine ⟨name', _, heq, mt hnil.1 hname, mt Text.lowerAfter_eq_nil_iff.1 hhost,
    mt (hmem _ hat).1 hnotName, mt (Text.mem_lowerAfter_iff hat).1 hnotHost, fun c hc => ?_⟩
  rw [← Bool.not_eq_true]
  intro hcblank
  have hmark : isMark c = true := by simp [isMark, hcblank]
  have hthere := hblank c ((Text.mem_lowerAfter_iff hmark).1 hc)
  rw [hcblank] at hthere
  cases hthere

theorem parse_ok_iff : parse s = .ok e ↔ (∃ name host, HasForm (Text.trim s.toList) name host) ∧
    e.text = String.ofList (Text.lowerAfter [] (Text.trim s.toList)) := by
  rw [← isWellFormed_iff]
  simp only [parse, Text.lowercase, String.toList_ofList]
  split
  · rename_i hform
    rw [Except.ok.injEq, and_iff_right hform]
    exact ⟨fun h => h ▸ rfl, fun h => (congrArg EmailAddress.mk h).symm⟩
  · rename_i hform
    simp [hform]

/-- What is kept of an address is an address, and is kept as it is. -/
theorem parse_text (h : parse s = .ok e) : parse e.text = .ok e := by
  obtain ⟨⟨name, host, hform⟩, htext⟩ := parse_ok_iff.1 h
  obtain ⟨name', host', hform'⟩ := hform.lowerAfter
  have htrim : Text.trim e.text.toList = Text.lowerAfter [] (Text.trim s.toList) := by
    rw [htext, String.toList_ofList, Text.trim_of_not_blank hform'.not_blank]
  refine parse_ok_iff.2 ⟨⟨name', host', htrim ▸ hform'⟩, ?_⟩
  rw [htrim, Text.lowerAfter_eq_self fun c => Text.settled_of_mem_lowerAfter, htext]

/-- A colon is in what is kept of an address if one was written. -/
theorem contains_colon (h : parse s = .ok e) : e.text.contains ':' = s.contains ':' := by
  obtain ⟨_, htext⟩ := parse_ok_iff.1 h
  have hmem : ':' ∈ e.text.toList ↔ ':' ∈ s.toList := by
    rw [htext, String.toList_ofList, Text.mem_lowerAfter_iff (by decide),
      Text.mem_trim_iff (by decide)]
  rw [String.contains_char_eq, String.contains_char_eq, decide_eq_decide.2 hmem]

end EmailAddress

namespace PhoneNumber

variable {s : String} {p : PhoneNumber} {cs digits : List Char}

/-- What a phone number looks like: seven to fifteen digits behind a plus sign. -/
structure HasForm (cs digits : List Char) : Prop where
  eq : cs = '+' :: digits
  enough : 7 ≤ digits.length
  few : digits.length ≤ 15
  isDigit : ∀ d ∈ digits, d.isDigit = true

theorem isWellFormed_iff : isWellFormed cs = true ↔ ∃ digits, HasForm cs digits := by
  constructor
  · intro h
    unfold isWellFormed at h
    split at h
    · rename_i digits
      simp only [Bool.and_eq_true, decide_eq_true_eq, List.all_eq_true] at h
      obtain ⟨⟨henough, hfew⟩, hdigits⟩ := h
      exact ⟨digits, rfl, henough, hfew, fun d hd => Text.isDigit_iff.2 (hdigits d hd)⟩
    · cases h
  · rintro ⟨digits, rfl, henough, hfew, hdigits⟩
    simp only [isWellFormed, henough, hfew, decide_true, Bool.true_and, List.all_eq_true,
      Bool.and_eq_true, decide_eq_true_eq]
    exact fun d hd => Text.isDigit_iff.1 (hdigits d hd)

/-- What is written of a phone number without its blanks and hyphens. -/
def compact (s : String) : List Char := s.toList.filter fun c => !isBlank c && c ≠ '-'

theorem parse_ok_iff : parse s = .ok p ↔
    (∃ digits, HasForm (compact s) digits) ∧ p.text = String.ofList (compact s) := by
  rw [← isWellFormed_iff]
  unfold parse compact
  dsimp only
  split
  · rename_i hform
    rw [Except.ok.injEq, and_iff_right hform]
    exact ⟨fun h => h ▸ rfl, fun h => (congrArg PhoneNumber.mk h).symm⟩
  · rename_i hform
    exact iff_of_false nofun fun h => hform h.1

/-- There are neither blanks nor hyphens in a phone number. -/
theorem HasForm.compact_eq (h : HasForm cs digits) : compact (String.ofList cs) = cs := by
  obtain ⟨rfl, _, _, hdigits⟩ := h
  rw [compact, String.toList_ofList, List.filter_eq_self]
  intro c hc
  rcases List.mem_cons.1 hc with rfl | hc
  · decide
  · have hne : c ≠ '-' := by
      rintro rfl
      exact absurd (hdigits _ hc) (by decide)
    simp [Text.not_blank_of_isDigit (hdigits c hc), hne]

/-- What is kept of a phone number is a phone number, and is kept as it is. -/
theorem parse_text (h : parse s = .ok p) : parse p.text = .ok p := by
  obtain ⟨⟨digits, hform⟩, htext⟩ := parse_ok_iff.1 h
  rw [parse_ok_iff, htext, hform.compact_eq]
  exact ⟨⟨digits, hform⟩, rfl⟩

end PhoneNumber

/-- A text is taken for a mail address if what stands between the blanks around it looks like one,
and that is kept in lower case; it is taken for a phone number if it looks like one without its
blanks and hyphens, and that is kept. What is kept looks like an address or a number itself, and is
kept as it is. -/
theorem Contact.kept_canonical (s : String) :
    (∀ e, EmailAddress.parse s = .ok e ↔ ∃ inner name host, Text.Surrounds s.toList inner ∧
        EmailAddress.HasForm inner name host ∧ e.text = Text.lowercase (String.ofList inner)) ∧
      (∀ e, EmailAddress.parse s = .ok e →
        (∃ name host, EmailAddress.HasForm e.text.toList name host) ∧
        EmailAddress.parse e.text = .ok e) ∧
      (∀ p, PhoneNumber.parse s = .ok p ↔ ∃ digits,
        PhoneNumber.HasForm (s.toList.filter fun c => !isBlank c && c ≠ '-') digits ∧
          p.text = String.ofList (s.toList.filter fun c => !isBlank c && c ≠ '-')) ∧
      ∀ p, PhoneNumber.parse s = .ok p →
        (∃ digits, PhoneNumber.HasForm p.text.toList digits) ∧
        PhoneNumber.parse p.text = .ok p := by
  refine ⟨fun e => ⟨fun he => ?_, ?_⟩, fun e he => ?_, fun p => ?_, fun p hp => ?_⟩
  · obtain ⟨⟨name, host, hform⟩, htext⟩ := EmailAddress.parse_ok_iff.1 he
    refine ⟨_, name, host, Text.surrounds_iff.2 rfl, hform, ?_⟩
    rw [htext, Text.lowercase, String.toList_ofList]
  · rintro ⟨inner, name, host, hinner, hform, htext⟩
    obtain rfl := Text.surrounds_iff.1 hinner
    refine EmailAddress.parse_ok_iff.2 ⟨⟨name, host, hform⟩, ?_⟩
    rw [htext, Text.lowercase, String.toList_ofList]
  · have hagain := EmailAddress.parse_text he
    obtain ⟨⟨_, _, hform⟩, htext⟩ := EmailAddress.parse_ok_iff.1 he
    refine ⟨?_, hagain⟩
    rw [htext, String.toList_ofList]
    exact hform.lowerAfter
  · rw [PhoneNumber.parse_ok_iff, exists_and_right]
    rfl
  · have hagain := PhoneNumber.parse_text hp
    obtain ⟨hform, htext⟩ := PhoneNumber.parse_ok_iff.1 hp
    refine ⟨?_, hagain⟩
    rwa [htext, String.toList_ofList]

/-- Capital sigmas become three letters of two forms, and blanks and hyphens go. -/
theorem Contact.kept_canonical_sample :
    EmailAddress.parse " ΣΑΣ.Σ@x\u3000" = .ok ⟨"σασ.ς@x"⟩ ∧ EmailAddress.parse "σασ.ς@x" = .ok
      ⟨"σασ.ς@x"⟩ ∧ PhoneNumber.parse "+64 9\u2003887-6986" = .ok ⟨"+6498876986"⟩ ∧
      PhoneNumber.parse "+6498876986" = .ok ⟨"+6498876986"⟩ := by
  have hform : EmailAddress.HasForm "ΣΑΣ.Σ@x".toList "ΣΑΣ.Σ".toList "x".toList :=
    ⟨by decide +kernel, by decide, by decide, by decide, by decide,
      fun c hc => Bool.eq_false_iff.2 (List.any_eq_false.1 (by decide +kernel) c hc)⟩
  have hemail : EmailAddress.parse " ΣΑΣ.Σ@x\u3000" = .ok ⟨"σασ.ς@x"⟩ :=
    ((Contact.kept_canonical _).1 _).2
      ⟨_, _, _, Text.surrounds_iff.2 (by decide +kernel), hform, by decide +kernel⟩
  have hphone : PhoneNumber.parse "+64 9\u2003887-6986" = .ok ⟨"+6498876986"⟩ := rfl
  exact ⟨hemail, ((Contact.kept_canonical _).2.1 _ hemail).2, hphone,
    ((Contact.kept_canonical _).2.2.2 _ hphone).2⟩

end TenantAuth
