import GlslCompliance.Proofs.Json.Reading

/-!
# Rendered documents

The compact text of a document against the grammar. A rendered text holds no white space, every
character that has an escape is escaped, and a number is written by its digits and, where it has
one, its power of ten.

* `Literal.exists_spelled_escape`: an escaped text is spelled by pieces that mean it, whatever
  characters it has;
* `Numeral.written_render`, `Token.written_render`: the written form of a number and of a token is
  one that the grammar allows;
* `Node.isWritten_render`: a document is written by its rendered text. It has to be proper, which
  documents put together by `Node.list` and `Node.record` are.
-/

namespace GlslCompliance.Json

/-! ### Strings -/

namespace Literal

/-- The escape by number of a control character. -/
theorem hexValue4?_hexDigit :
    ∀ n < 0x20, hexValue4? '0' '0' (hexDigit (n / 16)) (hexDigit (n % 16)) = some n := by
  decide

/-- One character in front of a spelled text. -/
theorem exists_spelled_cons (c : Char) {pieces : List Piece} {cs s : List Char}
    (hs : Spelled pieces cs) (hm : Means pieces s) :
    ∃ pieces, Spelled pieces (escape c ++ cs) ∧ Means pieces (c :: s) := by
  have hescape {e : Char} (he : (e, c) ∈ escapes) :
      ∃ pieces, Spelled pieces (['\\', e] ++ cs) ∧ Means pieces (c :: s) :=
    ⟨_, .escape he hs, .char hm⟩
  unfold escape
  split_ifs with h₁ h₂ h₃ h₄ h₅ h₆ h₇ h₈
  · exact hescape (by simp [escapes, h₁])
  · exact hescape (by simp [escapes, h₂])
  · exact hescape (by simp [escapes, h₃])
  · exact hescape (by simp [escapes, h₄])
  · exact hescape (by simp [escapes, h₅])
  · exact hescape (by simp [escapes, h₆])
  · exact hescape (by simp [escapes, h₇])
  · -- A unit below 0x20 is no half of a pair.
    have hhigh : isHigh c.toNat = false := by simp [isHigh]; omega
    have hlow : isLow c.toNat = false := by simp [isLow]; omega
    have hunit := Means.unit hhigh hlow hm
    rw [Char.ofNat_toNat] at hunit
    exact ⟨_, .unit (hexValue4?_hexDigit _ h₈) hs, hunit⟩
  · exact ⟨_, .plain ⟨Nat.not_lt.mp h₈, h₁, h₂⟩ hs, .char hm⟩

/-- An escaped text is spelled by pieces that mean the text. -/
theorem exists_spelled_escape (s : List Char) :
    ∃ pieces, Spelled pieces (s.flatMap escape) ∧ Means pieces s := by
  induction s with
  | nil => exact ⟨[], .nil, .nil⟩
  | cons c s ih =>
    obtain ⟨pieces, hs, hm⟩ := ih
    rw [List.flatMap_cons]
    exact exists_spelled_cons c hs hm

end Literal

/-! ### Numbers -/

namespace Numeral

theorem isDigits_toDigits (n : Nat) : IsDigits (Nat.toDigits 10 n) :=
  ⟨Nat.toDigits_ne_nil, fun _ hc => Nat.isDigit_of_mem_toDigits (by decide) (by decide) hc⟩

/-- Only zero starts with a zero. -/
theorem eq_zero_of_toDigits {n : Nat} {rest : List Char} (h : Nat.toDigits 10 n = '0' :: rest) :
    n = 0 := by
  induction n using Nat.strongRecOn generalizing rest with
  | ind n ih =>
    by_cases hn : n < 10
    · rw [Nat.toDigits_of_lt_base hn] at h
      exact Nat.digitChar_eq_zero.mp (List.cons.inj h).1
    · rw [Nat.toDigits_of_base_le (by decide) (Nat.not_lt.mp hn)] at h
      obtain ⟨c, tail, htail⟩ := List.exists_cons_of_ne_nil (Nat.toDigits_ne_nil (n := n / 10))
      rw [htail, List.cons_append] at h
      have hzero : n / 10 = 0 := ih (n / 10) (by omega) ((List.cons.inj h).1 ▸ htail)
      omega

/-- The digits of a number have no zero in front, unless the number is zero. -/
theorem isWholePart_toDigits (n : Nat) : IsWholePart (Nat.toDigits 10 n) := by
  refine ⟨isDigits_toDigits n, fun rest h => ?_⟩
  rw [eq_zero_of_toDigits h, Nat.toDigits_zero] at h
  exact (List.cons.inj h).2.symm

theorem digitsValue_toDigits (n : Nat) : digitsValue (Nat.toDigits 10 n) = n :=
  Nat.ofDigitChars_ten_toDigits

/-- A number that can be written: without exponent it has no scale. -/
def IsProper (n : Numeral) : Prop := n.integral = true → n.scale = 0

/-- A number is put together from its digits. -/
theorem ofParts_toDigits (negative : Bool) (n : Nat) (exponent : Option Int) :
    ofParts negative (Nat.toDigits 10 n) none exponent =
      ⟨negative, n, exponent.getD 0, exponent.isNone⟩ := by
  simp [ofParts, dropFinalZeros, digitsValue_toDigits]

/-- A number is written by its rendered form. -/
theorem written_render {n : Numeral} (h : n.IsProper) : n.Written n.render := by
  obtain ⟨negative, digits, scale, integral⟩ := n
  -- The text consists of sign, digits and exponent; only the exponent differs between the cases.
  have hparts {exponent : Option Int} {ds : List Char} (hx : Exponent exponent ds) :
      Written ⟨negative, digits, exponent.getD 0, exponent.isNone⟩
        (sign negative ++ Nat.toDigits 10 digits ++ ds) := by
    rw [← ofParts_toDigits, List.append_assoc]
    exact .parts (isWholePart_toDigits digits) .absent hx
  cases integral with
  | true =>
    obtain rfl : scale = 0 := h rfl
    exact hparts .absent
  | false =>
    have hvalue := digitsValue_toDigits scale.natAbs
    by_cases hs : scale < 0
    · have hx := Exponent.minus (.inl rfl) (isDigits_toDigits scale.natAbs)
      rw [hvalue, show -(scale.natAbs : Int) = scale by omega] at hx
      rw [render, renderScale, if_neg Bool.false_ne_true, if_pos hs]
      exact hparts hx
    · have hx := Exponent.bare (.inl rfl) (isDigits_toDigits scale.natAbs)
      rw [hvalue, show (scale.natAbs : Int) = scale by omega] at hx
      rw [render, renderScale, if_neg Bool.false_ne_true, if_neg hs]
      exact hparts hx

end Numeral

/-! ### Tokens -/

namespace Token

/-- A token that has a written form. -/
def IsProper : Token → Prop
  | number n => n.IsProper
  | stray => False
  | _ => True

/-- A token is written by its rendered form. -/
theorem written_render {t : Token} (h : t.IsProper) : t.Written t.render := by
  cases t with
  | openBrace => exact .openBrace
  | closeBrace => exact .closeBrace
  | openBracket => exact .openBracket
  | closeBracket => exact .closeBracket
  | colon => exact .colon
  | comma => exact .comma
  | null => exact .null
  | bool b => cases b with
    | true => exact .yes
    | false => exact .no
  | number n => exact .number (Numeral.written_render h)
  | text text? => cases text? with
    | none => exact .text (.unit (u := 0xD800) (by decide) .nil) (map_resolve_eq_iff.mp rfl)
    | some s =>
      obtain ⟨pieces, hs, hm⟩ := Literal.exists_spelled_escape s.toList
      refine .text hs (map_resolve_eq_iff.mp ?_)
      rw [Literal.resolve_eq_some_iff.mpr hm, Option.map_some, String.ofList_toList]
  | stray => exact h.elim

end Token

/-- Proper tokens can be told apart where one is written behind the other. -/
theorem spaced_flatMap_render {ts : List Token} (h : ∀ t ∈ ts, t.IsProper) :
    Spaced ts (ts.flatMap Token.render) := by
  induction ts with
  | nil => exact .nil nofun
  | cons t ts ih =>
    obtain ⟨ht, hts⟩ := List.forall_mem_cons.mp h
    rw [List.flatMap_cons]
    exact (ih hts).next (Token.written_render ht)

/-! ### Documents -/

namespace Node

/-- A document that has a written form: nothing is missing, and every number can be written. -/
def IsProper (v : Node) : Prop := v.isWhole = true ∧ ∀ t ∈ v.tokens, t.IsProper

/-- **The text of a document.** A proper document is written by its rendered text. -/
theorem isWritten_render {v : Node} (h : v.IsProper) : v.IsWritten v.render.toList := by
  obtain ⟨hv, htokens⟩ := h
  refine ⟨hv, ?_⟩
  rw [render, String.toList_ofList]
  exact spaced_flatMap_render htokens

theorem isProper_string (s : String) : (string s).IsProper :=
  ⟨rfl, fun _ ht => List.mem_singleton.mp ht ▸ trivial⟩

theorem isProper_bool (b : Bool) : (bool b).IsProper :=
  ⟨rfl, fun _ ht => List.mem_singleton.mp ht ▸ trivial⟩

theorem isProper_nat (n : Nat) : (nat n).IsProper :=
  ⟨rfl, fun _ ht => List.mem_singleton.mp ht ▸ fun _ => rfl⟩

end Node

/-- Proper documents make a proper array. -/
theorem Items.isProper_foldr {vs : List Node} (h : ∀ v ∈ vs, v.IsProper) :
    (vs.foldr Items.item .closed).isWhole = true ∧
      ∀ isFirst, ∀ t ∈ (vs.foldr Items.item .closed).tokens isFirst, t.IsProper := by
  induction vs with
  | nil => exact ⟨rfl, fun _ _ ht => List.mem_singleton.mp ht ▸ trivial⟩
  | cons v vs ih =>
    obtain ⟨⟨hv, htokens⟩, hvs⟩ := List.forall_mem_cons.mp h
    obtain ⟨hwhole, hrest⟩ := ih hvs
    refine ⟨Bool.and_eq_true _ _ ▸ ⟨hv, hwhole⟩, fun isFirst t ht => ?_⟩
    rw [List.foldr_cons, Items.tokens_item, List.mem_append, List.mem_append] at ht
    rcases ht with ht | ht | ht
    · split at ht
      · exact nomatch ht
      · exact List.mem_singleton.mp ht ▸ trivial
    · exact htokens t ht
    · exact hrest false t ht

theorem Members.isProper_foldr {ms : List (String × Node)} (h : ∀ m ∈ ms, m.2.IsProper) :
    let members := ms.foldr (fun m rest => Members.member (some m.1) m.2 rest) .closed
    members.isWhole = true ∧ ∀ isFirst, ∀ t ∈ members.tokens isFirst, t.IsProper := by
  induction ms with
  | nil => exact ⟨rfl, fun _ _ ht => List.mem_singleton.mp ht ▸ trivial⟩
  | cons m ms ih =>
    obtain ⟨⟨hv, htokens⟩, hms⟩ := List.forall_mem_cons.mp h
    obtain ⟨hwhole, hrest⟩ := ih hms
    refine ⟨Bool.and_eq_true _ _ ▸ ⟨hv, hwhole⟩, fun isFirst t ht => ?_⟩
    rw [List.foldr_cons, Members.tokens_member, List.mem_append, List.mem_cons, List.mem_cons,
      List.mem_append] at ht
    rcases ht with ht | rfl | rfl | ht | ht
    · split at ht
      · exact nomatch ht
      · exact List.mem_singleton.mp ht ▸ trivial
    · trivial
    · trivial
    · exact htokens t ht
    · exact hrest false t ht

namespace Node

/-- An array is proper if its items are, … -/
theorem isProper_list {vs : List Node} (h : ∀ v ∈ vs, v.IsProper) : (list vs).IsProper := by
  obtain ⟨hwhole, htokens⟩ := Items.isProper_foldr h
  exact ⟨hwhole, List.forall_mem_cons.mpr ⟨trivial, htokens true⟩⟩

/-- … and an object if its values are. -/
theorem isProper_record {ms : List (String × Node)} (h : ∀ m ∈ ms, m.2.IsProper) :
    (record ms).IsProper := by
  obtain ⟨hwhole, htokens⟩ := Members.isProper_foldr h
  exact ⟨hwhole, List.forall_mem_cons.mpr ⟨trivial, htokens true⟩⟩

end Node

end GlslCompliance.Json
