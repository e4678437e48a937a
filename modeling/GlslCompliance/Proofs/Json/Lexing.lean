import GlslCompliance.Proofs.Json.Grammar
import Mathlib.Data.List.Chain
import Mathlib.Tactic.SplitIfs

/-!
# Cutting a text into tokens

`Token.scan` against the grammar of tokens, part by part: strings, numbers, single tokens, texts.
Each part comes in two directions. What is cut off was written by the grammar, and what the grammar
writes is cut off again, as long as the text behind it cannot be taken for more of the same.

* `Literal.spelled_of_scan`, `Literal.scan_of_spelled`, `Literal.resolve_eq_some_iff`: strings;
* `Numeral.written_of_scan`, `Numeral.scan_of_written`: numbers. Behind a number there must not
  stand what could continue it (`Numeral.EndsBefore`);
* `Token.spaced_of_scan`, `Token.scan_of_spaced`: texts. In the second direction every number must
  be followed by a token that separates it (`Token.IsSeparated`).
-/

namespace GlslCompliance.Json

/-! ### Strings -/

namespace Literal

/-- What an escape stands for is read off the table. -/
theorem unescape?_eq_some_iff {e c : Char} : unescape? e = some c ↔ (e, c) ∈ escapes := by
  simp only [escapes, List.mem_cons, Prod.mk.injEq, List.not_mem_nil, or_false]
  constructor
  · intro h
    unfold unescape? at h
    repeat' split at h
    all_goals grind
  · rintro (⟨rfl, rfl⟩ | ⟨rfl, rfl⟩ | ⟨rfl, rfl⟩ | ⟨rfl, rfl⟩ | ⟨rfl, rfl⟩ | ⟨rfl, rfl⟩ |
      ⟨rfl, rfl⟩ | ⟨rfl, rfl⟩) <;> rfl

theorem ne_u_of_mem_escapes {e c : Char} (h : (e, c) ∈ escapes) : e ≠ 'u' := by
  rintro rfl
  simp [escapes] at h

/-- What the grammar spells is read back, up to the closing mark. -/
theorem scan_of_spelled {pieces : List Piece} {cs : List Char} (h : Spelled pieces cs)
    (rest : List Char) : scan (cs ++ '"' :: rest) = some (pieces, rest) := by
  induction h with
  | nil => rfl
  | @plain c pieces cs hc _ ih =>
    obtain ⟨hlow, hmark, hback⟩ := hc
    have hstop : ¬ (decide (c.toNat < 0x20) || decide (c = '\\')) = true := by
      simp [hback, Nat.not_lt.mpr hlow]
    rw [List.cons_append, scan, if_neg hstop, ih]
    · exact hmark
    · exact fun _ _ _ _ _ hc _ => hback hc
    · exact fun _ _ hc _ => hback hc
  | @escape e c pieces cs he _ ih =>
    rw [List.cons_append, List.cons_append, scan, unescape?_eq_some_iff.mpr he, ih]
    exact fun _ _ _ _ _ hu _ => ne_u_of_mem_escapes he hu
  | @unit a b c d u pieces cs hu _ ih =>
    simp only [List.cons_append, scan, hu, ih]

/-- What is read was spelled by the grammar. -/
theorem spelled_of_scan {cs rest : List Char} {pieces : List Piece}
    (h : scan cs = some (pieces, rest)) : ∃ ds, Spelled pieces ds ∧ cs = ds ++ '"' :: rest := by
  fun_induction scan cs generalizing pieces rest with
  | case1 | case4 | case6 | case7 | case9 => simp at h
  | case2 tail =>
    obtain ⟨rfl, rfl⟩ := Prod.mk.injEq .. ▸ Option.some.injEq .. ▸ h
    exact ⟨[], .nil, rfl⟩
  | case3 a b c d tail u pieces' tail' hu hs ih =>
    obtain ⟨rfl, rfl⟩ := Prod.mk.injEq .. ▸ Option.some.injEq .. ▸ h
    obtain ⟨ds, hds, rfl⟩ := ih hu
    exact ⟨_, .unit hs hds, rfl⟩
  | case5 e tail hne c pieces' tail' he hs ih =>
    obtain ⟨rfl, rfl⟩ := Prod.mk.injEq .. ▸ Option.some.injEq .. ▸ h
    obtain ⟨ds, hds, rfl⟩ := ih he
    exact ⟨_, .escape (unescape?_eq_some_iff.mp hs) hds, rfl⟩
  | case8 c tail hmark hu hback hstop pieces' tail' hs ih =>
    obtain ⟨rfl, rfl⟩ := Prod.mk.injEq .. ▸ Option.some.injEq .. ▸ h
    obtain ⟨ds, hds, rfl⟩ := ih hs
    simp only [Bool.or_eq_true, decide_eq_true_eq, not_or, Nat.not_lt] at hstop
    exact ⟨_, .plain ⟨hstop.1, hmark, hstop.2⟩ hds, rfl⟩

/-- A code unit that is no part of a pair is a character by itself. -/
theorem resolve_unit {u : Nat} {pieces : List Piece} (hh : isHigh u = false)
    (hl : isLow u = false) :
    resolve (.unit u :: pieces) = (resolve pieces).map (Char.ofNat u :: ·) := by
  cases pieces with
  | nil => simp [resolve, hh, hl]
  | cons piece pieces => cases piece <;> simp [resolve, hh, hl]

/-- Resolving pieces gives the text that they stand for. -/
theorem resolve_eq_some_iff {pieces : List Piece} {s : List Char} :
    resolve pieces = some s ↔ Means pieces s := by
  constructor
  · intro h
    fun_induction resolve pieces generalizing s with
    | case1 => exact Option.some.inj h ▸ .nil
    | case2 c pieces ih =>
      obtain ⟨t, ht, rfl⟩ := Option.map_eq_some_iff.mp h
      exact .char (ih ht)
    | case3 u v pieces hu hv ih =>
      obtain ⟨t, ht, rfl⟩ := Option.map_eq_some_iff.mp h
      exact .pair hu hv (ih ht)
    | case4 | case5 | case7 => simp at h
    | case6 u v pieces hu hl ih =>
      obtain ⟨t, ht, rfl⟩ := Option.map_eq_some_iff.mp h
      exact .unit (eq_false_of_ne_true hu) (eq_false_of_ne_true hl) (ih ht)
    | case8 u pieces hne hu ih =>
      obtain ⟨t, ht, rfl⟩ := Option.map_eq_some_iff.mp h
      simp only [Bool.or_eq_true, not_or] at hu
      exact .unit (eq_false_of_ne_true hu.1) (eq_false_of_ne_true hu.2) (ih ht)
  · intro h
    induction h with
    | nil => rfl
    | char _ ih => rw [resolve, ih, Option.map_some]
    | unit hh hl _ ih => rw [resolve_unit hh hl, ih, Option.map_some]
    | pair hh hl _ ih => rw [resolve, if_pos hh, if_pos hl, ih, Option.map_some]

end Literal

/-! ### Numbers -/

namespace Numeral

/-- A text that does not start with a digit. -/
def StartsNoDigit (cs : List Char) : Prop := ∀ c ∈ cs.head?, c.isDigit = false

/-- A text that cannot continue a number. -/
def EndsBefore (cs : List Char) : Prop :=
  ∀ c ∈ cs.head?, c.isDigit = false ∧ c ≠ '.' ∧ c ≠ 'e' ∧ c ≠ 'E'

theorem EndsBefore.startsNoDigit {cs : List Char} (h : EndsBefore cs) : StartsNoDigit cs :=
  fun c hc => (h c hc).1

theorem digitRun_append_afterDigits (cs : List Char) : digitRun cs ++ afterDigits cs = cs :=
  List.takeWhile_append_dropWhile

theorem isDigits_digitRun {cs : List Char} (h : digitRun cs ≠ []) : IsDigits (digitRun cs) :=
  ⟨h, fun c hc => List.all_eq_true.mp List.all_takeWhile c hc⟩

/-- Digits do not start with anything else. -/
theorem IsDigits.append_ne_cons {ds rest tail : List Char} {c : Char} (h : IsDigits ds)
    (hc : c.isDigit = false) : ds ++ rest ≠ c :: tail := by
  obtain ⟨hne, hd⟩ := h
  cases ds with
  | nil => exact absurd rfl hne
  | cons d ds =>
    intro heq
    obtain ⟨rfl, -⟩ := List.cons.inj heq
    exact Bool.false_ne_true (hc.symm.trans (hd d List.mem_cons_self))

/-- A run of digits ends where no digit follows. -/
theorem digitRun_append {ds rest : List Char} (hd : ∀ c ∈ ds, c.isDigit = true)
    (hr : StartsNoDigit rest) : digitRun (ds ++ rest) = ds := by
  have hrest : rest.takeWhile Char.isDigit = [] := by
    cases rest with
    | nil => rfl
    | cons c rest => rw [List.takeWhile_cons, hr c rfl]; rfl
  rw [digitRun, List.takeWhile_append_of_pos hd, hrest, List.append_nil]

theorem afterDigits_append {ds rest : List Char} (hd : ∀ c ∈ ds, c.isDigit = true)
    (hr : StartsNoDigit rest) : afterDigits (ds ++ rest) = rest := by
  have h := digitRun_append_afterDigits (ds ++ rest)
  rw [digitRun_append hd hr] at h
  exact List.append_cancel_left h

/-- What is read as the part in front of the point is one. -/
theorem isWholePart_of_scanWhole {cs ds rest : List Char}
    (h : scanWhole cs = some (ds, rest)) : IsWholePart ds ∧ cs = ds ++ rest := by
  unfold scanWhole at h
  split at h
  · simp at h
  · simp at h
  · next hne hzero =>
    obtain ⟨rfl, rfl⟩ := Prod.mk.injEq .. ▸ Option.some.injEq .. ▸ h
    refine ⟨⟨isDigits_digitRun hne, fun tail htail => ?_⟩, (digitRun_append_afterDigits cs).symm⟩
    cases tail with
    | nil => rfl
    | cons c tail => exact absurd htail (hzero c tail)

/-- A part in front of the point is read to its end. -/
theorem scanWhole_of_isWholePart {ds rest : List Char} (h : IsWholePart ds)
    (hr : StartsNoDigit rest) : scanWhole (ds ++ rest) = some (ds, rest) := by
  obtain ⟨⟨hne, hd⟩, hzero⟩ := h
  rw [scanWhole, digitRun_append hd hr, afterDigits_append hd hr]
  split
  · exact absurd rfl hne
  · next c tail => exact absurd (hzero _ rfl) (List.cons_ne_nil c tail)
  · rfl

/-- What is read as a fraction is one, possibly an absent one. -/
theorem fraction_of_scanFraction {cs rest : List Char} {f : Option (List Char)}
    (h : scanFraction cs = some (f, rest)) : ∃ ds, Fraction f ds ∧ cs = ds ++ rest := by
  unfold scanFraction at h
  split at h
  · next cs =>
    split at h
    · simp at h
    · next hne =>
      obtain ⟨rfl, rfl⟩ := Prod.mk.injEq .. ▸ Option.some.injEq .. ▸ h
      refine ⟨_, .present (isDigits_digitRun hne), ?_⟩
      rw [List.cons_append, digitRun_append_afterDigits]
  · obtain ⟨rfl, rfl⟩ := Prod.mk.injEq .. ▸ Option.some.injEq .. ▸ h
    exact ⟨[], .absent, rfl⟩

/-- A fraction is read to its end, and its absence is noticed. -/
theorem scanFraction_of_fraction {ds rest : List Char} {f : Option (List Char)}
    (h : Fraction f ds) (hr : StartsNoDigit rest) (hp : ∀ c ∈ rest.head?, c ≠ '.') :
    scanFraction (ds ++ rest) = some (f, rest) := by
  cases h with
  | absent =>
    rw [List.nil_append, scanFraction]
    rintro cs rfl
    exact hp '.' rfl rfl
  | @present ds hds =>
    rw [List.cons_append, scanFraction, digitRun_append hds.2 hr, afterDigits_append hds.2 hr]
    split
    · exact absurd rfl hds.1
    · rfl

/-- The digits of an exponent, with its sign. -/
theorem exponent_of_scanExponentDigits {negative : Bool} {cs rest : List Char} {x : Option Int}
    (h : scanExponentDigits negative cs = some (x, rest)) :
    ∃ ds, IsDigits ds ∧ cs = ds ++ rest ∧
      x = some (if negative then -(digitsValue ds : Int) else digitsValue ds) := by
  unfold scanExponentDigits at h
  split at h
  · simp at h
  · next hne =>
    obtain ⟨rfl, rfl⟩ := Prod.mk.injEq .. ▸ Option.some.injEq .. ▸ h
    exact ⟨_, isDigits_digitRun hne, (digitRun_append_afterDigits cs).symm, rfl⟩

theorem scanExponentDigits_of_isDigits {ds rest : List Char} (negative : Bool)
    (h : IsDigits ds) (hr : StartsNoDigit rest) :
    scanExponentDigits negative (ds ++ rest) =
      some (some (if negative then -(digitsValue ds : Int) else digitsValue ds), rest) := by
  rw [scanExponentDigits, digitRun_append h.2 hr, afterDigits_append h.2 hr]
  split
  · exact absurd rfl h.1
  · rfl

/-- What is read as an exponent is one, possibly an absent one. -/
theorem exponent_of_scanExponent {cs rest : List Char} {x : Option Int}
    (h : scanExponent cs = some (x, rest)) : ∃ ds, Exponent x ds ∧ cs = ds ++ rest := by
  unfold scanExponent at h
  split at h
  · next c cs =>
    split at h
    · next he =>
      have he : c = 'e' ∨ c = 'E' := by simpa using he
      split at h
      · obtain ⟨ds, hds, rfl, rfl⟩ := exponent_of_scanExponentDigits h
        exact ⟨_, .plus he hds, rfl⟩
      · obtain ⟨ds, hds, rfl, rfl⟩ := exponent_of_scanExponentDigits h
        exact ⟨_, .minus he hds, rfl⟩
      · obtain ⟨ds, hds, rfl, rfl⟩ := exponent_of_scanExponentDigits h
        exact ⟨_, .bare he hds, rfl⟩
    · obtain ⟨rfl, rfl⟩ := Prod.mk.injEq .. ▸ Option.some.injEq .. ▸ h
      exact ⟨[], .absent, rfl⟩
  · obtain ⟨rfl, rfl⟩ := Prod.mk.injEq .. ▸ Option.some.injEq .. ▸ h
    exact ⟨[], .absent, rfl⟩

/-- An exponent is read to its end, and its absence is noticed. -/
theorem scanExponent_of_exponent {ds rest : List Char} {x : Option Int} (h : Exponent x ds)
    (hr : EndsBefore rest) : scanExponent (ds ++ rest) = some (x, rest) := by
  have hletter {e : Char} (he : e = 'e' ∨ e = 'E') :
      (decide (e = 'e') || decide (e = 'E')) = true := by simpa using he
  cases h with
  | absent =>
    cases rest with
    | nil => rfl
    | cons c rest =>
      obtain ⟨-, -, he, hE⟩ := hr c rfl
      simp [scanExponent, he, hE]
  | @bare e ds he hds =>
    rw [List.cons_append, scanExponent, if_pos (hletter he)]
    · exact scanExponentDigits_of_isDigits false hds hr.startsNoDigit
    · exact fun _ => hds.append_ne_cons rfl
    · exact fun _ => hds.append_ne_cons rfl
  | @plus e ds he hds =>
    rw [List.cons_append, List.cons_append, scanExponent, if_pos (hletter he)]
    exact scanExponentDigits_of_isDigits false hds hr.startsNoDigit
  | @minus e ds he hds =>
    rw [List.cons_append, List.cons_append, scanExponent, if_pos (hletter he)]
    exact scanExponentDigits_of_isDigits true hds hr.startsNoDigit

/-- A number that is read was written by the grammar. -/
theorem written_of_scanUnsigned {negative : Bool} {cs rest : List Char} {n : Numeral}
    (h : scanUnsigned negative cs = some (n, rest)) :
    ∃ ds, Written n (sign negative ++ ds) ∧ cs = ds ++ rest := by
  simp only [scanUnsigned, Option.bind_eq_bind, Option.bind_eq_some_iff, Prod.exists,
    Option.pure_def, Option.some.injEq, Prod.mk.injEq] at h
  -- The three parts take over from one another, each where the one before has stopped.
  obtain ⟨whole, cs₁, hwhole, fraction, cs₂, hfraction, exponent, cs₃, hexponent, rfl, rfl⟩ := h
  obtain ⟨hw, rfl⟩ := isWholePart_of_scanWhole hwhole
  obtain ⟨fs, hf, rfl⟩ := fraction_of_scanFraction hfraction
  obtain ⟨xs, hx, rfl⟩ := exponent_of_scanExponent hexponent
  exact ⟨_, .parts hw hf hx, by simp only [List.append_assoc]⟩

/-- What is read as a number is written as one. -/
theorem written_of_scan {cs rest : List Char} {n : Numeral} (h : scan cs = some (n, rest)) :
    ∃ ds, Written n ds ∧ cs = ds ++ rest := by
  unfold scan at h
  split at h
  · obtain ⟨ds, hds, rfl⟩ := written_of_scanUnsigned h
    exact ⟨_, hds, rfl⟩
  · obtain ⟨ds, hds, rfl⟩ := written_of_scanUnsigned h
    exact ⟨_, hds, rfl⟩

/-- Neither an exponent nor what follows a number continues a fraction. -/
theorem Exponent.startsNoDigit {x : Option Int} {ds rest : List Char} (h : Exponent x ds)
    (hr : EndsBefore rest) :
    StartsNoDigit (ds ++ rest) ∧ ∀ c ∈ (ds ++ rest).head?, c ≠ '.' := by
  cases h with
  | absent => exact ⟨hr.startsNoDigit, fun c hc => (hr c hc).2.1⟩
  | bare he _ | plus he _ | minus he _ =>
    rcases he with rfl | rfl <;>
      exact ⟨fun c hc => Option.some.inj hc ▸ rfl, fun c hc => Option.some.inj hc ▸ by decide⟩

theorem Fraction.startsNoDigit {f : Option (List Char)} {ds rest : List Char}
    (h : Fraction f ds) (hr : StartsNoDigit rest) : StartsNoDigit (ds ++ rest) := by
  cases h with
  | absent => exact hr
  | present _ => exact fun c hc => Option.some.inj hc ▸ rfl

/-- A number is read part by part, each to its end. -/
theorem scanUnsigned_of_parts {negative : Bool} {whole cs ds rest : List Char}
    {fraction : Option (List Char)} {exponent : Option Int} (hw : IsWholePart whole)
    (hf : Fraction fraction cs) (hx : Exponent exponent ds) (hr : EndsBefore rest) :
    scanUnsigned negative (whole ++ (cs ++ (ds ++ rest))) =
      some (ofParts negative whole fraction exponent, rest) := by
  obtain ⟨hdigit, hpoint⟩ := hx.startsNoDigit hr
  have hwhole := scanWhole_of_isWholePart hw (hf.startsNoDigit hdigit)
  have hfraction := scanFraction_of_fraction hf hdigit hpoint
  have hexponent := scanExponent_of_exponent hx hr
  simp only [scanUnsigned, hwhole, hfraction, hexponent, Option.bind_eq_bind, Option.bind_some,
    Option.pure_def]
  rfl

/-- A number starts with its sign or with a digit. -/
theorem Written.exists_cons {n : Numeral} {cs : List Char} (h : Written n cs) :
    ∃ c ds, cs = c :: ds ∧ (c = '-' ∨ c.isDigit = true) := by
  obtain @⟨negative, whole, fs, xs, fraction, exponent, hw, hf, hx⟩ := h
  obtain ⟨⟨hne, hd⟩, -⟩ := hw
  obtain ⟨c, tail, rfl⟩ := List.exists_cons_of_ne_nil hne
  cases negative with
  | true => exact ⟨'-', _, rfl, .inl rfl⟩
  | false => exact ⟨c, _, rfl, .inr (hd c List.mem_cons_self)⟩

/-- A number of the grammar is read back, where nothing follows that continues it. -/
theorem scan_of_written {cs rest : List Char} {n : Numeral} (h : Written n cs)
    (hr : EndsBefore rest) : scan (cs ++ rest) = some (n, rest) := by
  obtain @⟨negative, whole, fs, xs, fraction, exponent, hw, hf, hx⟩ := h
  have hbody : scanUnsigned negative (whole ++ (fs ++ (xs ++ rest))) =
      some (ofParts negative whole fraction exponent, rest) := scanUnsigned_of_parts hw hf hx hr
  simp only [List.append_assoc]
  cases negative with
  | true => exact hbody
  | false =>
    rw [sign, if_neg Bool.false_ne_true, List.nil_append, scan]
    · exact hbody
    · exact fun _ => hw.1.append_ne_cons rfl

end Numeral

/-! ### Single tokens -/

namespace Token

/-- What follows a token: behind a number, nothing that continues it. -/
def AllowsNext (t : Token) (rest : List Char) : Prop :=
  ∀ n, t = .number n → Numeral.EndsBefore rest

/-- A token of one character. -/
theorem written_of_single {c : Char} {cs rest : List Char} {t u : Token} (hu : u.Written [c])
    (h : some (u, cs) = some (t, rest)) : ∃ ds, t.Written ds ∧ c :: cs = ds ++ rest := by
  obtain ⟨rfl, rfl⟩ := Prod.mk.inj (Option.some.inj h)
  exact ⟨[c], hu, rfl⟩

/-- What is read as a fixed word is that word. -/
theorem written_of_word {text : String} {cs rest : List Char} {t u : Token}
    (hu : u.Written text.toList) (h : word text u cs = some (t, rest)) :
    ∃ ds, t.Written ds ∧ cs = ds ++ rest := by
  unfold word dropWord? at h
  split at h
  · next hp =>
    obtain ⟨tail, rfl⟩ := List.isPrefixOf_iff_prefix.mp hp
    rw [Option.map_some, List.drop_left] at h
    obtain ⟨rfl, rfl⟩ := Prod.mk.inj (Option.some.inj h)
    exact ⟨text.toList, hu, rfl⟩
  · simp at h

theorem word_append (text : String) (t : Token) (rest : List Char) :
    word text t (text.toList ++ rest) = some (t, rest) := by
  rw [word, dropWord?, if_pos (List.isPrefixOf_iff_prefix.mpr (List.prefix_append _ _)),
    List.drop_left, Option.map_some]

/-- The text of a string token is that of its pieces. -/
theorem map_resolve_eq_iff {pieces : List Literal.Piece} {text? : Option String} :
    (Literal.resolve pieces).map String.ofList = text? ↔
      ∀ s : String, text? = some s ↔ Literal.Means pieces s.toList := by
  have hsome (s : String) : (Literal.resolve pieces).map String.ofList = some s ↔
      Literal.Means pieces s.toList := by
    rw [← Literal.resolve_eq_some_iff, Option.map_eq_some_iff]
    constructor
    · rintro ⟨t, ht, rfl⟩
      rw [ht, String.toList_ofList]
    · exact fun hs => ⟨s.toList, hs, String.ofList_toList⟩
  constructor
  · rintro rfl s
    exact hsome s
  · intro h
    ext s
    rw [hsome s, h s]

/-- What is read as a string is written as one. -/
theorem written_of_string {cs rest : List Char} {t : Token} (h : string cs = some (t, rest)) :
    ∃ ds, t.Written ds ∧ '"' :: cs = ds ++ rest := by
  obtain ⟨⟨pieces, tail⟩, hscan, heq⟩ := Option.map_eq_some_iff.mp h
  obtain ⟨rfl, rfl⟩ := Prod.mk.inj heq
  obtain ⟨ds, hds, rfl⟩ := Literal.spelled_of_scan hscan
  exact ⟨'"' :: (ds ++ ['"']), .text hds (map_resolve_eq_iff.mp rfl), by simp⟩

/-- A string is read up to its closing quote, with the text that its pieces stand for. -/
theorem string_of_spelled {text? : Option String} {pieces : List Literal.Piece}
    {cs : List Char} (h : Literal.Spelled pieces cs)
    (hm : ∀ s, text? = some s ↔ Literal.Means pieces s.toList) (rest : List Char) :
    string (cs ++ '"' :: rest) = some (.text text?, rest) := by
  rw [string, Literal.scan_of_spelled h, Option.map_some, map_resolve_eq_iff.mpr hm]

theorem written_of_numeral {cs rest : List Char} {t : Token} (h : numeral cs = some (t, rest)) :
    ∃ ds, t.Written ds ∧ cs = ds ++ rest := by
  obtain ⟨⟨n, tail⟩, hscan, heq⟩ := Option.map_eq_some_iff.mp h
  obtain ⟨rfl, rfl⟩ := Prod.mk.inj heq
  obtain ⟨ds, hds, hcs⟩ := Numeral.written_of_scan hscan
  exact ⟨ds, .number hds, hcs⟩

/-- A token that is read was written by the grammar. -/
theorem written_of_next? {cs rest : List Char} {t : Token} (h : next? cs = some (t, rest)) :
    ∃ ds, t.Written ds ∧ cs = ds ++ rest := by
  cases cs with
  | nil => simp [next?] at h
  | cons c cs =>
    rw [next?] at h
    split_ifs at h with h₁ h₂ h₃ h₄ h₅ h₆ h₇
    · exact written_of_single (h₁ ▸ .openBrace) h
    · exact written_of_single (h₂ ▸ .closeBrace) h
    · exact written_of_single (h₃ ▸ .openBracket) h
    · exact written_of_single (h₄ ▸ .closeBracket) h
    · exact written_of_single (h₅ ▸ .colon) h
    · exact written_of_single (h₆ ▸ .comma) h
    · exact h₇ ▸ written_of_string h
    · exact written_of_word .null h
    · exact written_of_word .yes h
    · exact written_of_word .no h
    · exact written_of_numeral h

/-- The first character of a number is no other character. -/
theorem ne_of_startsNumber {c d : Char} (h : c = '-' ∨ c.isDigit = true) (hm : d ≠ '-')
    (hd : d.isDigit = false) : c ≠ d := by
  rintro rfl
  exact h.elim hm fun hc => Bool.false_ne_true (hd.symm.trans hc)

/-- Where a number starts, a number is read. -/
theorem next?_eq_numeral {c : Char} (h : c = '-' ∨ c.isDigit = true) (cs : List Char) :
    next? (c :: cs) = numeral (c :: cs) := by
  have hne {d : Char} (hm : d ≠ '-') (hd : d.isDigit = false) : c ≠ d :=
    ne_of_startsNumber h hm hd
  rw [next?, if_neg (hne (by decide) rfl), if_neg (hne (by decide) rfl),
    if_neg (hne (by decide) rfl), if_neg (hne (by decide) rfl), if_neg (hne (by decide) rfl),
    if_neg (hne (by decide) rfl), if_neg (hne (by decide) rfl), if_neg (hne (by decide) rfl),
    if_neg (hne (by decide) rfl), if_neg (hne (by decide) rfl)]

/-- A token of the grammar is read back. -/
theorem next?_of_written {cs rest : List Char} {t : Token} (h : t.Written cs)
    (hr : t.AllowsNext rest) : next? (cs ++ rest) = some (t, rest) := by
  cases h with
  | openBrace | closeBrace | openBracket | closeBracket | colon | comma => rfl
  | null => exact word_append "null" .null rest
  | yes => exact word_append "true" (.bool true) rest
  | no => exact word_append "false" (.bool false) rest
  | @number n _ hn =>
    obtain ⟨c, ds, rfl, hc⟩ := hn.exists_cons
    have hscan := Numeral.scan_of_written hn (hr n rfl)
    rw [List.cons_append] at hscan ⊢
    rw [next?_eq_numeral hc, numeral, hscan, Option.map_some]
  | @text text? pieces cs hs hm =>
    have hstring := string_of_spelled hs hm rest
    rw [List.cons_append, List.append_assoc, List.singleton_append]
    exact hstring

/-- No token starts with white space. -/
theorem Written.exists_cons {cs : List Char} {t : Token} (h : t.Written cs) :
    ∃ c ds, cs = c :: ds ∧ isSpace c = false := by
  cases h with
  | openBrace | closeBrace | openBracket | closeBracket | colon | comma | null | yes | no | text =>
    exact ⟨_, _, rfl, rfl⟩
  | number hn =>
    obtain ⟨c, ds, rfl, hc⟩ := hn.exists_cons
    refine ⟨c, ds, rfl, ?_⟩
    simp only [isSpace, Bool.or_eq_false_iff, beq_eq_false_iff_ne]
    exact ⟨⟨⟨ne_of_startsNumber hc (by decide) rfl, ne_of_startsNumber hc (by decide) rfl⟩,
      ne_of_startsNumber hc (by decide) rfl⟩, ne_of_startsNumber hc (by decide) rfl⟩

/-! ### Texts -/

/-- A token that may stand behind a number. -/
def separates : Token → Bool
  | comma | closeBracket | closeBrace => true
  | _ => false

/-- No number is followed by what could continue it. -/
def IsSeparated (ts : List Token) : Prop :=
  ts.IsChain fun t u => ∀ n, t = .number n → u.separates = true

end Token

/-- White space in front of a text changes nothing in its tokens. -/
theorem Spaced.blank_cons {c : Char} {ts : List Token} {cs : List Char}
    (hc : Token.isSpace c = true) (h : Spaced ts cs) : Spaced ts (c :: cs) := by
  cases h with
  | nil hw => exact .nil (List.forall_mem_cons.mpr ⟨hc, hw⟩)
  | @cons t ts ws ds rest hw ht hrest =>
    have hw' : IsBlank (c :: ws) := List.forall_mem_cons.mpr ⟨hc, hw⟩
    exact .cons hw' ht hrest

/-- Tokens without white space in front. -/
theorem Spaced.next {t : Token} {ts : List Token} {cs rest : List Char} (ht : t.Written cs)
    (h : Spaced ts rest) : Spaced (t :: ts) (cs ++ rest) := by
  have hw : IsBlank [] := nofun
  exact .cons hw ht h

/-- Behind a number white space, a separating token or the end of the text does no harm. -/
theorem Spaced.endsBefore {ts : List Token} {cs : List Char} (h : Spaced ts cs)
    (hs : ∀ u ∈ ts.head?, u.separates = true) : Numeral.EndsBefore cs := by
  have hspace {c : Char} (hc : Token.isSpace c = true) :
      c.isDigit = false ∧ c ≠ '.' ∧ c ≠ 'e' ∧ c ≠ 'E' := by
    simp only [Token.isSpace, Bool.or_eq_true, beq_iff_eq] at hc
    rcases hc with ((rfl | rfl) | rfl) | rfl <;> decide
  intro c hc
  cases h with
  | nil hw => exact hspace (hw c (List.mem_of_mem_head? hc))
  | @cons u ts ws ds rest hw hu hrest =>
    cases ws with
    | cons d ws =>
      obtain rfl := Option.some.inj hc
      exact hspace (hw _ List.mem_cons_self)
    | nil =>
      -- Without white space the next token starts at once, and it is one of three characters.
      have hsep := hs u rfl
      cases hu <;> simp only [Token.separates, Bool.false_eq_true] at hsep
      all_goals
        obtain rfl := Option.some.inj hc
        decide

namespace Token

theorem scan_blank {c : Char} (hc : isSpace c = true) (cs : List Char) :
    scan (c :: cs) = scan cs := by
  rw [scan, if_pos hc]

/-- What is not white space is read token by token. -/
theorem scan_of_next? {c : Char} {cs rest : List Char} {t : Token} (hc : isSpace c = false)
    (h : next? (c :: cs) = some (t, rest)) : scan (c :: cs) = t :: scan rest := by
  rw [scan, if_neg (Bool.eq_false_iff.mp hc)]
  split
  · next hn => rw [hn] at h; simp at h
  · next hn =>
    rw [hn] at h
    obtain ⟨rfl, rfl⟩ := Prod.mk.inj (Option.some.inj h)
    rfl

/-- White space of any length is skipped. -/
theorem scan_isBlank_append {ws : List Char} (hw : IsBlank ws) (cs : List Char) :
    scan (ws ++ cs) = scan cs := by
  induction ws with
  | nil => rfl
  | cons c ws ih =>
    rw [List.cons_append, scan_blank (hw c List.mem_cons_self),
      ih fun d hd => hw d (List.mem_cons_of_mem c hd)]

/-- Where no place was unreadable, the text holds the tokens that were cut off. -/
theorem spaced_of_scan {cs : List Char} (h : stray ∉ scan cs) : Spaced (scan cs) cs := by
  fun_induction scan cs with
  | case1 => exact .nil nofun
  | case2 c cs hc ih => exact (ih h).blank_cons hc
  | case3 c cs hc hn => exact absurd List.mem_cons_self h
  | case4 c cs hc t rest hn ih =>
    obtain ⟨ds, hds, heq⟩ := written_of_next? hn
    rw [heq]
    exact .next hds (ih fun hm => h (List.mem_cons_of_mem t hm))

/-- Separated tokens are cut off one by one. -/
theorem scan_of_spaced {ts : List Token} {cs : List Char} (h : Spaced ts cs)
    (hs : IsSeparated ts) : scan cs = ts := by
  -- The induction is on the text, so what stands behind a token is known to be cut already.
  induction h with
  | @nil ws hw =>
    have hscan := scan_isBlank_append hw []
    rwa [List.append_nil, scan] at hscan
  | @cons t ts ws ds rest hw ht hrest ih =>
    have hallows : t.AllowsNext rest := by
      intro n hn
      refine hrest.endsBefore fun u hu => ?_
      obtain ⟨ts, rfl⟩ := List.head?_eq_some_iff.mp hu
      exact (List.isChain_cons_cons.mp hs).1 n hn
    obtain ⟨c, tail, rfl, hc⟩ := ht.exists_cons
    have hnext := next?_of_written ht hallows
    rw [List.cons_append] at hnext
    rw [scan_isBlank_append hw, List.cons_append, scan_of_next? hc hnext, ih hs.tail]

end Token

end GlslCompliance.Json
