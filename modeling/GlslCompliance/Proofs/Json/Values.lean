import GlslCompliance.Json.Decoding
import GlslCompliance.Proofs.Json.Reading
import Mathlib.Data.List.Forall2

/-!
# What a decoder accepts

A decoder stops at the first fault and says what it is. Which values it lets through, and as what,
is a simpler question: `Accepts d P` answers it by a relation `P` between documents and values. The
relation takes a document as a whole and knows nothing of an order of reading.

* `decode_eq_ok_iff` carries the answer from documents to texts, by the grammar of documents;
* `accepts_decodeBool`, `accepts_decodeString`, `accepts_decodeUInt32`: single values. A number of
  32 bits is written by digits alone, `Numeral.isNatural_iff_of_written`;
* `accepts_decodeVariant`, `accepts_decodeList`: variants and lists.
-/

namespace GlslCompliance.Json

variable {α β ε : Type}

/-- A computation in two parts succeeds if both parts do. -/
theorem bind_eq_ok_iff {x : Except ε α} {f : α → Except ε β} {b : β} :
    (x >>= f) = .ok b ↔ ∃ a, x = .ok a ∧ f a = .ok b := by
  cases x with
  | error e => exact ⟨nofun, fun ⟨_, h, _⟩ => nomatch h⟩
  | ok a => exact ⟨fun h => ⟨a, rfl, h⟩, fun ⟨_, h, hf⟩ => Except.ok.inj h ▸ hf⟩

/-- A decoder accepts whole documents only, and of these the ones that a relation gives a value. -/
def Accepts (d : Decoder α) (P : Node → α → Prop) : Prop :=
  ∀ v a, d v = .ok a ↔ v.isWhole = true ∧ P v a

/-- A document has one value at most. -/
theorem Accepts.unique {d : Decoder α} {P : Node → α → Prop} (h : Accepts d P) {v : Node}
    {a b : α} (hv : v.isWhole = true) (ha : P v a) (hb : P v b) : a = b :=
  Except.ok.inj (((h v a).mpr ⟨hv, ha⟩).symm.trans ((h v b).mpr ⟨hv, hb⟩))

/-- A text is read to a value exactly if it is that of a document with this value. -/
theorem decode_eq_ok_iff {d : Decoder α} {P : Node → α → Prop} (h : Accepts d P) {text : String}
    {a : α} : decode d text = .ok a ↔ ∃ v : Node, v.IsWritten text.toList ∧ P v a := by
  obtain ⟨v, rest, hread⟩ : ∃ v rest, Node.read (Token.scan text.toList) = (v, rest) :=
    ⟨_, _, rfl⟩
  rw [decode, hread]
  constructor
  · intro hok
    obtain ⟨b, hb, hok⟩ := bind_eq_ok_iff.mp hok
    obtain ⟨hv, hp⟩ := (h v b).mp hb
    cases rest with
    | cons t rest => exact nomatch hok
    | nil => exact ⟨v, Node.isWritten_iff.mpr ⟨hv, hread⟩, Except.ok.inj hok ▸ hp⟩
  · rintro ⟨w, hw, hp⟩
    obtain ⟨hwhole, hw⟩ := Node.isWritten_iff.mp hw
    obtain ⟨rfl, rfl⟩ := Prod.mk.inj (hread.symm.trans hw)
    exact bind_eq_ok_iff.mpr ⟨a, (h v a).mpr ⟨hwhole, hp⟩, rfl⟩

/-! ### Single values -/

namespace Numeral

/-- A natural number, written by its digits alone. -/
def IsNatural (n : Numeral) (value : Nat) : Prop :=
  n.integral = true ∧ n.negative = false ∧ n.digits = value

/-- The texts of natural numbers have neither sign nor point nor exponent. -/
theorem isNatural_iff_of_written {n : Numeral} {cs : List Char} {value : Nat}
    (h : n.Written cs) : n.IsNatural value ↔ IsWholePart cs ∧ digitsValue cs = value := by
  obtain @⟨negative, whole, fs, xs, fraction, exponent, hw, hf, hx⟩ := h
  constructor
  · rintro ⟨hintegral, rfl, rfl⟩
    obtain ⟨hfraction, hexponent⟩ := Bool.and_eq_true _ _ ▸ hintegral
    cases hf with
    | present => exact absurd hfraction Bool.false_ne_true
    | absent =>
      cases hx with
      | absent => simpa [sign, ofParts, dropFinalZeros] using hw
      | bare | plus | minus => exact absurd hexponent Bool.false_ne_true
  · rintro ⟨⟨⟨-, hd⟩, -⟩, rfl⟩
    cases negative with
    | true => exact absurd (hd '-' (by simp [sign])) (by decide)
    | false =>
      cases hf with
      | present => exact absurd (hd '.' (by simp)) (by decide)
      | absent =>
        cases hx with
        | absent => simp [IsNatural, ofParts, sign, dropFinalZeros]
        | @bare e _ he _ | @plus e _ he _ | @minus e _ he _ =>
          rcases he with rfl | rfl
          · exact absurd (hd 'e' (by simp)) (by decide)
          · exact absurd (hd 'E' (by simp)) (by decide)

/-- An integer that is not below zero is read from the text of a natural number. -/
theorem number?_eq_integer_iff {n : Numeral} {i : Int} (hi : 0 ≤ i) :
    n.number? = some (.integer i) ↔ n.IsNatural i.toNat ∧ i < UInt64.size := by
  have hsize : UInt64.size = 18446744073709551616 := rfl
  have hfloating : n.toFloat?.map Number.floating ≠ some (.integer i) := by
    cases n.toFloat? <;> simp
  obtain ⟨negative, digits, scale, integral⟩ := n
  simp only [number?, fits64, IsNatural]
  cases integral with
  | false => simp [hfloating]
  | true =>
    cases negative with
    | true =>
      simp only [Bool.true_and, if_true, Bool.and_eq_true, bne_iff_ne, decide_eq_true_eq]
      split
      · simp
        omega
      · simp [hfloating]
    | false =>
      simp only [Bool.true_and, Bool.false_eq_true, if_false, decide_eq_true_eq]
      split
      · simp
        omega
      · simp [hfloating]
        omega

end Numeral

namespace Node

/-- One of the words true and false. -/
def IsBool (v : Node) (b : Bool) : Prop := v = .bool b

/-- A string that stands for a text. -/
def IsText (v : Node) (s : String) : Prop := v = .text (some s)

/-- A natural number of 32 bits, without sign, point and exponent. -/
def IsUInt32 (v : Node) (n : UInt32) : Prop := ∃ m, v = .number m ∧ m.IsNatural n.toNat

/-- A name, or an object that gives it the value null and nothing else. -/
def Names (v : Node) (name : String) : Prop :=
  v = .text (some name) ∨ v = .object (.member (some name) .null .closed)

theorem isUInt32_nat (n : UInt32) : (nat n.toNat).IsUInt32 n := ⟨_, rfl, rfl, rfl, rfl⟩

theorem names_string (name : String) : (string name).Names name := .inl rfl

end Node

/-- Truth values are read from the two words. -/
theorem accepts_decodeBool : Accepts decodeBool Node.IsBool := by
  intro v b
  cases v with
  | bool c => simp [decodeBool, Node.IsBool, Node.isWhole]
  | _ => simp [decodeBool, Node.IsBool]

/-- Texts are read from strings. -/
theorem accepts_decodeString : Accepts decodeString Node.IsText := by
  intro v s
  cases v with
  | text text? => cases text? <;> simp [decodeString, Node.IsText, Node.isWhole]
  | _ => simp [decodeString, Node.IsText]

/-- Numbers of 32 bits are read from natural numbers in range. -/
theorem accepts_decodeUInt32 : Accepts decodeUInt32 Node.IsUInt32 := by
  intro v n
  cases v with
  | number m =>
    have hlt : n.toNat < UInt32.size := n.toNat_lt
    have hsize : UInt32.size = 4294967296 := rfl
    have hsize' : UInt64.size = 18446744073709551616 := rfl
    constructor
    · intro h
      rw [decodeUInt32] at h
      split at h
      · next i hi =>
        split at h
        · next hrange =>
          obtain ⟨hnonneg, hbelow⟩ : 0 ≤ i ∧ i < UInt32.size := by simpa using hrange
          obtain ⟨hm, -⟩ := (Numeral.number?_eq_integer_iff hnonneg).mp hi
          have hsmall : i.toNat < UInt32.size := by omega
          have hn : n.toNat = i.toNat := by
            rw [← Except.ok.inj h]
            exact UInt32.toNat_ofNat_of_lt' hsmall
          exact ⟨rfl, m, rfl, hn ▸ hm⟩
        · exact nomatch h
      · exact nomatch h
      · exact nomatch h
    · rintro ⟨-, k, hk, hm⟩
      obtain rfl := Node.number.inj hk
      have hnumber : m.number? = some (.integer n.toNat) :=
        (Numeral.number?_eq_integer_iff (by omega)).mpr ⟨by simpa using hm, by omega⟩
      have hrange : (decide (0 ≤ (n.toNat : Int)) &&
          decide ((n.toNat : Int) < UInt32.size)) = true := by
        simp
        omega
      rw [decodeUInt32, hnumber]
      simp only [if_pos hrange, Int.toNat_natCast, UInt32.ofNat_toNat]
  | _ => simp [decodeUInt32, Node.IsUInt32]

/-! ### Variants -/

theorem variantNamed_eq_ok_iff {variants : List (String × α)} {name : String} {a : α} :
    variantNamed variants name = .ok a ↔ variants.lookup name = some a := by
  rw [variantNamed]
  split
  · next b hb => rw [hb, Except.ok.injEq, Option.some.injEq]
  · next hnone => simp [hnone]

/-- A variant is given by its name in one of two forms. -/
theorem accepts_decodeVariant (variants : List (String × α)) :
    Accepts (decodeVariant variants) fun v a =>
      ∃ name, v.Names name ∧ variants.lookup name = some a := by
  intro v a
  constructor
  · intro h
    unfold decodeVariant at h
    split at h
    · next name => exact ⟨rfl, name, .inl rfl, variantNamed_eq_ok_iff.mp h⟩
    · next name value rest =>
      obtain ⟨b, hb, h⟩ := bind_eq_ok_iff.mp h
      -- Behind the name there has to be null, and behind that the end of the object.
      split at h
      · obtain rfl := Except.ok.inj h
        exact ⟨rfl, name, .inr rfl, variantNamed_eq_ok_iff.mp hb⟩
      · exact nomatch h
      · exact nomatch h
    · exact nomatch h
  · rintro ⟨-, name, rfl | rfl, hname⟩
    · exact variantNamed_eq_ok_iff.mpr hname
    · exact bind_eq_ok_iff.mpr ⟨a, variantNamed_eq_ok_iff.mpr hname, rfl⟩

/-- Variants under keys of their own are found by these keys. -/
theorem lookup_map_eq_some_iff {key : α → String} (hkey : ∀ a b, key a = key b → a = b)
    {all : List α} (hall : ∀ a, a ∈ all) {name : String} {a : α} :
    (all.map fun a => (key a, a)).lookup name = some a ↔ name = key a := by
  have hfound : ∀ as : List α, a ∈ as → (as.map fun a => (key a, a)).lookup (key a) = some a := by
    intro as ha
    induction as with
    | nil => exact nomatch ha
    | cons b as ih =>
      rw [List.map_cons, List.lookup_cons]
      split
      · next hb => rw [hkey a b (beq_iff_eq.mp hb)]
      · next hb =>
        refine ih ((List.mem_cons.mp ha).resolve_left ?_)
        rintro rfl
        exact Bool.false_ne_true (hb.symm.trans (beq_self_eq_true _))
  constructor
  · intro h
    obtain ⟨before, after, heq, -⟩ := List.lookup_eq_some_iff.mp h
    have hmem : (name, a) ∈ all.map fun a => (key a, a) := heq ▸ by simp
    obtain ⟨b, -, hb⟩ := List.mem_map.mp hmem
    obtain ⟨rfl, rfl⟩ := Prod.mk.inj hb
    rfl
  · rintro rfl
    exact hfound all (hall a)

/-- The variants of a type, each under its own key. -/
theorem accepts_decodeVariant_map {key : α → String} (hkey : ∀ a b, key a = key b → a = b)
    {all : List α} (hall : ∀ a, a ∈ all) :
    Accepts (decodeVariant (all.map fun a => (key a, a))) fun v a => v.Names (key a) := by
  intro v a
  rw [accepts_decodeVariant]
  refine and_congr_right fun _ => ⟨?_, fun h => ⟨key a, h, ?_⟩⟩
  · rintro ⟨name, hname, h⟩
    exact (lookup_map_eq_some_iff hkey hall).mp h ▸ hname
  · exact (lookup_map_eq_some_iff hkey hall).mpr rfl

/-! ### Lists -/

/-- The items of an array. -/
def Items.toList : Items → List Node
  | closed | cut => []
  | item v rest => v :: rest.toList

/-- An array of values, item by item. -/
def Node.IsList (P : Node → α → Prop) (v : Node) (as : List α) : Prop :=
  ∃ items : Items, v = .array items ∧ List.Forall₂ P items.toList as

theorem Items.toList_foldr (vs : List Node) : (vs.foldr Items.item .closed).toList = vs := by
  induction vs with
  | nil => rfl
  | cons v vs ih => rw [List.foldr_cons, Items.toList, ih]

theorem Node.isList_list {P : Node → α → Prop} {vs : List Node} {as : List α}
    (h : List.Forall₂ P vs as) : (Node.list vs).IsList P as :=
  ⟨_, rfl, (Items.toList_foldr vs).symm ▸ h⟩

/-- Items are read one after the other, up to the end of a whole array. -/
theorem decodeItems_eq_ok_iff {item : Decoder α} {P : Node → α → Prop} (h : Accepts item P)
    {items : Items} {as : List α} :
    decodeItems item items = .ok as ↔
      items.isWhole = true ∧ List.Forall₂ P items.toList as := by
  cases items with
  | closed =>
    rw [decodeItems, Items.toList, List.forall₂_nil_left_iff]
    exact ⟨fun h => ⟨rfl, (Except.ok.inj h).symm⟩, fun h => h.2 ▸ rfl⟩
  | cut => exact ⟨nofun, fun h => absurd h.1 Bool.false_ne_true⟩
  | item v rest =>
    rw [decodeItems, Items.isWhole, Items.toList, Bool.and_eq_true, List.forall₂_cons_left_iff]
    constructor
    · intro hok
      obtain ⟨b, hb, hok⟩ := bind_eq_ok_iff.mp hok
      obtain ⟨bs, hbs, hok⟩ := bind_eq_ok_iff.mp hok
      obtain ⟨hv, hp⟩ := (h v b).mp hb
      obtain ⟨hrest, hps⟩ := (decodeItems_eq_ok_iff h).mp hbs
      exact ⟨⟨hv, hrest⟩, b, bs, hp, hps, (Except.ok.inj hok).symm⟩
    · rintro ⟨⟨hv, hrest⟩, b, bs, hp, hps, rfl⟩
      have hbs := (decodeItems_eq_ok_iff h).mpr ⟨hrest, hps⟩
      exact bind_eq_ok_iff.mpr ⟨b, (h v b).mpr ⟨hv, hp⟩, bind_eq_ok_iff.mpr ⟨bs, hbs, rfl⟩⟩

/-- Lists are read from arrays, item by item. -/
theorem accepts_decodeList {item : Decoder α} {P : Node → α → Prop} (h : Accepts item P) :
    Accepts (decodeList item) (Node.IsList P) := by
  intro v as
  cases v with
  | array items =>
    refine (decodeItems_eq_ok_iff h).trans (and_congr_right fun _ => ⟨?_, ?_⟩)
    · exact fun hps => ⟨items, rfl, hps⟩
    · rintro ⟨_, heq, hps⟩
      exact Node.array.inj heq ▸ hps
  | _ => exact ⟨nofun, fun ⟨_, _, heq, _⟩ => nomatch heq⟩

end GlslCompliance.Json
