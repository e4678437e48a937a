import GlslCompliance.Proofs.Json.Lexing

/-!
# Putting tokens together

`Place.read` goes through the tokens of a document one at a time. What it has consumed at a place
can be told from the place alone (`Place.consumed`), and this is the invariant of the run:

* one token moves the reader on by that token, `Place.consumed_step`, so a document that nothing is
  missing from is read from its own tokens, `Place.tokens_of_read`;
* a document that the reader gives up on is never whole, `Place.isWhole_giveUp`;
* in the other direction the tokens of a whole document are read back to it wherever a value may
  stand, `Node.read_tokens_append`, by an induction along the document.

With the grammar of tokens, `Node.isWritten_iff` says which texts a document is read from, and
`Node.eq_of_isWritten` that no text has two readings.
-/

namespace GlslCompliance.Json

/-! ### What a place has consumed -/

/-- The comma behind what has been read, if anything has. -/
def commaBehind {α : Type} (before : List α) : List Token := if before.isEmpty then [] else [.comma]

/-- The tokens of items that have been read, the last of them in front. -/
def itemsBehind : List Node → List Token
  | [] => []
  | v :: before => itemsBehind before ++ (commaBehind before ++ v.tokens)

/-- The tokens of members that have been read, the last of them in front. -/
def membersBehind : List (Option String × Node) → List Token
  | [] => []
  | (key, v) :: before =>
    membersBehind before ++ (commaBehind before ++ .text key :: .colon :: v.tokens)

/-- The tokens of a container up to the value that it waits for. -/
def Frame.consumed : Frame → List Token
  | item before => .openBracket :: (itemsBehind before ++ commaBehind before)
  | member before key =>
    .openBrace :: (membersBehind before ++ (commaBehind before ++ [.text key, .colon]))

/-- The tokens of frames, the outermost of which was opened first. -/
def framesConsumed : List Frame → List Token
  | [] => []
  | frame :: around => framesConsumed around ++ frame.consumed

namespace Place

/-- The tokens that lead to a place. -/
def consumed : Place → List Token
  | beforeValue around => framesConsumed around
  | arrayStart around => framesConsumed around ++ [.openBracket]
  | afterItem items around => framesConsumed around ++ .openBracket :: itemsBehind items
  | objectStart around => framesConsumed around ++ [.openBrace]
  | beforeKey members around =>
    framesConsumed around ++ .openBrace :: (membersBehind members ++ [.comma])
  | afterKey members key around =>
    framesConsumed around ++
      .openBrace :: (membersBehind members ++ (commaBehind members ++ [.text key]))
  | afterMember members around => framesConsumed around ++ .openBrace :: membersBehind members

/-- A place behind an item or a member has one behind it. -/
def IsProper : Place → Prop
  | afterItem items _ => items ≠ []
  | beforeKey members _ | afterMember members _ => members ≠ []
  | _ => True

end Place

namespace Progress

/-- The tokens that lead to some progress. -/
def consumed : Progress → List Token
  | complete value => value.tokens
  | .at place => place.consumed

/-- Progress to a place that has what it needs behind it. -/
def IsProper : Progress → Prop
  | complete _ => True
  | .at place => place.IsProper

/-- Reading on from where one is. -/
def resume : Progress → List Token → Node × List Token
  | complete value, ts => (value, ts)
  | .at place, ts => place.read ts

end Progress

theorem commaBehind_nil {α : Type} : commaBehind ([] : List α) = [] := rfl

theorem commaBehind_of_ne_nil {α : Type} {before : List α} (h : before ≠ []) :
    commaBehind before = [.comma] := by
  obtain ⟨a, before, rfl⟩ := List.exists_cons_of_ne_nil h
  rfl

theorem Items.tokens_item (isFirst : Bool) (v : Node) (rest : Items) :
    (Items.item v rest).tokens isFirst =
      (if isFirst then [] else [.comma]) ++ (v.tokens ++ rest.tokens false) := by
  rw [Items.tokens, List.append_assoc]

/-- The tokens of a member are its key, a colon and its value, behind a comma unless it is the
first. -/
theorem Members.tokens_member (isFirst : Bool) (key : Option String) (v : Node)
    (rest : Members) :
    (Members.member key v rest).tokens isFirst =
      (if isFirst then [] else [.comma]) ++
        .text key :: .colon :: (v.tokens ++ rest.tokens false) := by
  rw [Members.tokens, List.append_assoc, List.cons_append, List.cons_append]

/-- Items in front of others are written in front of them. -/
theorem Items.tokens_prependReversed (rest : Items) (before : List Node) :
    (Items.prependReversed rest before).tokens true =
      itemsBehind before ++ rest.tokens before.isEmpty := by
  induction before generalizing rest with
  | nil => rfl
  | cons v before ih =>
    rw [Items.prependReversed, ih, Items.tokens_item, itemsBehind, commaBehind]
    simp only [List.append_assoc, List.isEmpty_cons]

theorem Members.tokens_prependReversed (rest : Members) (before : List (Option String × Node)) :
    (Members.prependReversed rest before).tokens true =
      membersBehind before ++ rest.tokens before.isEmpty := by
  induction before generalizing rest with
  | nil => rfl
  | cons m before ih =>
    obtain ⟨key, v⟩ := m
    rw [Members.prependReversed, ih, Members.tokens_member, membersBehind, commaBehind]
    simp only [List.append_assoc, List.isEmpty_cons, List.cons_append]

/-! ### One token -/

namespace Place

/-- A value that is supplied stands behind the frames around it. -/
theorem consumed_supply (v : Node) (around : List Frame) :
    (supply v around).consumed = framesConsumed around ++ v.tokens ∧
      (supply v around).IsProper := by
  cases around with
  | nil => exact ⟨rfl, trivial⟩
  | cons frame around =>
    cases frame with
    | item before =>
      refine ⟨?_, List.cons_ne_nil v before⟩
      simp only [supply, Progress.consumed, consumed, itemsBehind, framesConsumed, Frame.consumed,
        List.append_assoc, List.cons_append]
    | member before key =>
      refine ⟨?_, List.cons_ne_nil (key, v) before⟩
      simp only [supply, Progress.consumed, consumed, membersBehind, framesConsumed,
        Frame.consumed, List.append_assoc, List.cons_append, List.nil_append]

/-- A token that starts a value is consumed, and nothing else. -/
theorem consumed_startValue {around : List Frame} {t : Token} {q : Progress}
    (h : startValue around t = some q) :
    q.consumed = framesConsumed around ++ [t] ∧ q.IsProper := by
  cases t with
  | null | bool | number | text => exact Option.some.inj h ▸ consumed_supply _ around
  | openBracket | openBrace => exact Option.some.inj h ▸ ⟨rfl, trivial⟩
  | closeBrace | closeBracket | colon | comma | stray => exact absurd h nofun

/-- **One step.** A token that is read is the next one consumed. -/
theorem consumed_step {p : Place} {t : Token} {q : Progress} (hp : p.IsProper)
    (h : p.step t = some q) : q.consumed = p.consumed ++ [t] ∧ q.IsProper := by
  unfold step at h
  split at h
  · exact consumed_startValue h
  · next around =>
    obtain ⟨hc, hq⟩ := consumed_supply (.array .closed) around
    refine Option.some.inj h ▸ ⟨?_, hq⟩
    rw [hc, consumed, List.append_assoc]
    rfl
  · next around t _ =>
    obtain ⟨hc, hq⟩ := consumed_startValue h
    exact ⟨hc, hq⟩
  · next items around =>
    refine Option.some.inj h ▸ ⟨?_, trivial⟩
    simp only [Progress.consumed, consumed, framesConsumed, Frame.consumed,
      commaBehind_of_ne_nil hp, List.append_assoc, List.cons_append]
  · next items around =>
    obtain ⟨hc, hq⟩ := consumed_supply (.array (Items.prependReversed .closed items)) around
    refine Option.some.inj h ▸ ⟨?_, hq⟩
    rw [hc, Node.tokens, Items.tokens_prependReversed, Items.tokens, consumed, List.append_assoc,
      List.cons_append]
  · next around =>
    obtain ⟨hc, hq⟩ := consumed_supply (.object .closed) around
    refine Option.some.inj h ▸ ⟨?_, hq⟩
    rw [hc, consumed, List.append_assoc]
    rfl
  · next around key =>
    refine Option.some.inj h ▸ ⟨?_, trivial⟩
    simp only [Progress.consumed, consumed, membersBehind, commaBehind_nil, List.append_assoc,
      List.cons_append, List.nil_append]
  · next members around key =>
    refine Option.some.inj h ▸ ⟨?_, trivial⟩
    simp only [Progress.consumed, consumed, commaBehind_of_ne_nil hp, List.append_assoc,
      List.cons_append, List.nil_append]
  · next members key around =>
    refine Option.some.inj h ▸ ⟨?_, trivial⟩
    simp only [Progress.consumed, consumed, framesConsumed, Frame.consumed, List.append_assoc,
      List.cons_append, List.nil_append]
  · next members around =>
    refine Option.some.inj h ▸ ⟨?_, hp⟩
    simp only [Progress.consumed, consumed, List.append_assoc, List.cons_append]
  · next members around =>
    obtain ⟨hc, hq⟩ := consumed_supply (.object (Members.prependReversed .closed members)) around
    refine Option.some.inj h ▸ ⟨?_, hq⟩
    rw [hc, Node.tokens, Members.tokens_prependReversed, Members.tokens, consumed,
      List.append_assoc, List.cons_append]
  · exact absurd h nofun

theorem read_of_step {p : Place} {t : Token} {q : Progress} (h : p.step t = some q)
    (ts : List Token) : p.read (t :: ts) = q.resume ts := by
  rw [read, h]
  cases q <;> rfl

end Place

/-! ### A run -/

theorem Items.isWhole_of_prependReversed {rest : Items} {before : List Node}
    (h : (Items.prependReversed rest before).isWhole = true) : rest.isWhole = true := by
  induction before generalizing rest with
  | nil => exact h
  | cons v before ih => exact (Bool.and_eq_true _ _ ▸ ih h).2

theorem Members.isWhole_of_prependReversed {rest : Members}
    {before : List (Option String × Node)}
    (h : (Members.prependReversed rest before).isWhole = true) : rest.isWhole = true := by
  induction before generalizing rest with
  | nil => exact h
  | cons m before ih => exact (Bool.and_eq_true _ _ ▸ ih h).2

namespace Place

/-- A value is whole if the document around it is, even where that ends with it. -/
theorem isWhole_of_abandon {v : Node} {around : List Frame}
    (h : (abandon v around).isWhole = true) : v.isWhole = true := by
  induction around generalizing v with
  | nil => exact h
  | cons frame around ih =>
    cases frame with
    | item before => exact (Bool.and_eq_true _ _ ▸ Items.isWhole_of_prependReversed (ih h)).1
    | member before key =>
      exact (Bool.and_eq_true _ _ ▸ Members.isWhole_of_prependReversed (ih h)).1

/-- Something is missing from a document that was given up. -/
theorem isWhole_giveUp (p : Place) : p.giveUp.isWhole = false := by
  refine Bool.eq_false_iff.mpr fun h => ?_
  cases p with
  | beforeValue | arrayStart | objectStart => exact Bool.false_ne_true (isWhole_of_abandon h)
  | afterItem =>
    exact Bool.false_ne_true (Items.isWhole_of_prependReversed (isWhole_of_abandon h))
  | beforeKey | afterKey | afterMember =>
    exact Bool.false_ne_true (Members.isWhole_of_prependReversed (isWhole_of_abandon h))

/-- **A run.** A whole document has been read from its own tokens. -/
theorem tokens_of_read {p : Place} {ts rest : List Token} {v : Node} (hp : p.IsProper)
    (hv : v.isWhole = true) (h : p.read ts = (v, rest)) : p.consumed ++ ts = v.tokens ++ rest := by
  -- The reader cannot have given up anywhere on the way, since nothing is missing.
  have hgiveUp (p : Place) : v ≠ p.giveUp := by
    rintro rfl
    exact Bool.false_ne_true ((isWhole_giveUp p).symm.trans hv)
  induction ts generalizing p with
  | nil => exact absurd (Prod.mk.inj h).1.symm (hgiveUp p)
  | cons t ts ih =>
    cases hs : p.step t with
    | none =>
      rw [read, hs] at h
      exact absurd (Prod.mk.inj h).1.symm (hgiveUp p)
    | some q =>
      obtain ⟨hc, hq⟩ := consumed_step hp hs
      rw [read_of_step hs] at h
      rw [List.append_cons, ← hc]
      cases q with
      | complete w =>
        obtain ⟨rfl, rfl⟩ := Prod.mk.inj h
        rfl
      | «at» q => exact ih hq h

end Place

/-! ### Tokens of a whole document -/

namespace Place

/-- The place in an array where items have been read. -/
def inArray (before : List Node) (around : List Frame) : Place :=
  if before.isEmpty then arrayStart around else afterItem before around

/-- The place in an object where members have been read. -/
def inObject (before : List (Option String × Node)) (around : List Frame) : Place :=
  if before.isEmpty then objectStart around else afterMember before around

/-- A value that opens an array is read as any other. -/
theorem read_arrayStart {v : Node} (hv : v.isWhole = true) (around : List Frame)
    (ts : List Token) :
    (arrayStart around).read (v.tokens ++ ts) =
      (beforeValue (.item [] :: around)).read (v.tokens ++ ts) := by
  cases v with
  | null | bool | number | text | array | object => rfl
  | unreadable => exact absurd hv Bool.false_ne_true

end Place

open Place

mutual

/-- The tokens of a whole value are read where a value may stand. -/
theorem Node.read_tokens_append {v : Node} (hv : v.isWhole = true) (around : List Frame)
    (ts : List Token) :
    (beforeValue around).read (v.tokens ++ ts) = (supply v around).resume ts := by
  cases v with
  | null | bool | number | text => exact read_of_step rfl ts
  | array items =>
    change (arrayStart around).read (items.tokens true ++ ts) = _
    exact Items.read_tokens_append hv [] around ts
  | object members =>
    change (objectStart around).read (members.tokens true ++ ts) = _
    exact Members.read_tokens_append hv [] around ts
  | unreadable => exact absurd hv Bool.false_ne_true

/-- The tokens of whole items are read as these items, which are behind those read before. -/
theorem Items.read_tokens_append {items : Items} (hw : items.isWhole = true) (before : List Node)
    (around : List Frame) (ts : List Token) :
    (inArray before around).read (items.tokens before.isEmpty ++ ts) =
      (supply (.array (Items.prependReversed items before)) around).resume ts := by
  cases items with
  | closed => cases before <;> exact read_of_step rfl ts
  | cut => exact absurd hw Bool.false_ne_true
  | item v rest =>
    obtain ⟨hv, hrest⟩ := Bool.and_eq_true _ _ ▸ hw
    have hvalue := Node.read_tokens_append hv (.item before :: around) (rest.tokens false ++ ts)
    have hbehind := Items.read_tokens_append hrest (v :: before) around ts
    rw [Items.tokens_item, List.append_assoc, List.append_assoc]
    -- Up to the value there is a comma to read, or nothing at all.
    have hstart : (inArray before around).read
        ((if before.isEmpty then [] else [.comma]) ++ (v.tokens ++ (rest.tokens false ++ ts))) =
        (beforeValue (.item before :: around)).read (v.tokens ++ (rest.tokens false ++ ts)) := by
      cases before with
      | nil => exact read_arrayStart hv around _
      | cons w before => rfl
    exact hstart.trans (hvalue.trans hbehind)

/-- The tokens of whole members are read as these members, which are behind those read before. -/
theorem Members.read_tokens_append {members : Members} (hw : members.isWhole = true)
    (before : List (Option String × Node)) (around : List Frame) (ts : List Token) :
    (inObject before around).read (members.tokens before.isEmpty ++ ts) =
      (supply (.object (Members.prependReversed members before)) around).resume ts := by
  cases members with
  | closed => cases before <;> exact read_of_step rfl ts
  | cut => exact absurd hw Bool.false_ne_true
  | member key v rest =>
    obtain ⟨hv, hrest⟩ := Bool.and_eq_true _ _ ▸ hw
    have hvalue :=
      Node.read_tokens_append hv (.member before key :: around) (rest.tokens false ++ ts)
    have hbehind := Members.read_tokens_append hrest ((key, v) :: before) around ts
    rw [Members.tokens_member, List.append_assoc, List.cons_append, List.cons_append,
      List.append_assoc]
    have hstart : (inObject before around).read ((if before.isEmpty then [] else [.comma]) ++
          .text key :: .colon :: (v.tokens ++ (rest.tokens false ++ ts))) =
        (beforeValue (.member before key :: around)).read
          (v.tokens ++ (rest.tokens false ++ ts)) := by
      cases before <;> rfl
    exact hstart.trans (hvalue.trans hbehind)

end

/-! ### From the text to the document -/

/-- Nothing is unreadable, and no number runs into what stands behind it. -/
def IsLexical (ts : List Token) : Prop := .stray ∉ ts ∧ Token.IsSeparated ts

/-- Tokens that may stand behind a value. -/
def IsBehindValue (ts : List Token) : Prop := IsLexical ts ∧ ∀ u ∈ ts.head?, u.separates = true

theorem isLexical_nil : IsLexical [] := ⟨nofun, .nil⟩

/-- A token that is no number goes in front of anything. -/
theorem IsLexical.cons {t : Token} {ts : List Token} (h : IsLexical ts)
    (hnumber : ∀ n, t ≠ .number n) (hstray : t ≠ .stray) : IsLexical (t :: ts) := by
  obtain ⟨hs, hc⟩ := h
  refine ⟨fun hm => (List.mem_cons.mp hm).elim (fun he => hstray he.symm) hs, ?_⟩
  exact List.isChain_cons.mpr ⟨fun u _ n hn => absurd hn (hnumber n), hc⟩

/-- So does a key with its colon. -/
theorem IsLexical.key {ts : List Token} (h : IsLexical ts) (key : Option String) :
    IsLexical (.text key :: .colon :: ts) := by
  have hcolon : IsLexical (.colon :: ts) := h.cons nofun nofun
  exact hcolon.cons nofun nofun

/-- A token that separates goes in front of anything, and behind a value. -/
theorem IsLexical.separated {t : Token} {ts : List Token} (h : IsLexical ts)
    (ht : t.separates = true) : IsBehindValue (t :: ts) := by
  refine ⟨h.cons ?_ ?_, fun u hu => Option.some.inj hu ▸ ht⟩
  · rintro n rfl
    exact Bool.false_ne_true ht
  · rintro rfl
    exact Bool.false_ne_true ht

theorem IsBehindValue.number {ts : List Token} (h : IsBehindValue ts) (n : Numeral) :
    IsLexical (.number n :: ts) := by
  obtain ⟨⟨hs, hc⟩, hhead⟩ := h
  refine ⟨fun hm => (List.mem_cons.mp hm).elim nofun hs, ?_⟩
  exact List.isChain_cons.mpr ⟨fun u hu _ _ => hhead u hu, hc⟩

mutual

/-- In a document every number is followed by what separates it. -/
theorem Node.isLexical_tokens_append {v : Node} {ts : List Token} (h : IsBehindValue ts) :
    IsLexical (v.tokens ++ ts) := by
  cases v with
  | null | bool | text => exact h.1.cons nofun nofun
  | number n => exact h.number n
  | array items => exact (Items.isLexical_tokens_append h).cons nofun nofun
  | object members => exact (Members.isLexical_tokens_append h).cons nofun nofun
  | unreadable => exact h.1

/-- Items in front of what can follow a value: none of it is unreadable or runs into what is behind.
-/
theorem Items.isLexical_tokens_append {items : Items} {ts : List Token} (h : IsBehindValue ts) :
    IsLexical (items.tokens true ++ ts) := by
  cases items with
  | closed => exact (h.1.separated rfl).1
  | cut => exact h.1
  | item v rest =>
    rw [Items.tokens_item, if_pos rfl, List.nil_append, List.append_assoc]
    exact Node.isLexical_tokens_append (Items.isBehindValue_tokens_append h)

theorem Items.isBehindValue_tokens_append {items : Items} {ts : List Token}
    (h : IsBehindValue ts) : IsBehindValue (items.tokens false ++ ts) := by
  cases items with
  | closed => exact h.1.separated rfl
  | cut => exact h
  | item v rest =>
    rw [Items.tokens_item, if_neg Bool.false_ne_true, List.append_assoc, List.append_assoc]
    have hrest : IsBehindValue (rest.tokens false ++ ts) := Items.isBehindValue_tokens_append h
    exact (Node.isLexical_tokens_append hrest).separated rfl

/-- Members in front of what can follow a value: none of it is unreadable or runs into what is
behind. -/
theorem Members.isLexical_tokens_append {members : Members} {ts : List Token}
    (h : IsBehindValue ts) : IsLexical (members.tokens true ++ ts) := by
  cases members with
  | closed => exact (h.1.separated rfl).1
  | cut => exact h.1
  | member key v rest =>
    rw [Members.tokens_member, if_pos rfl, List.nil_append, List.cons_append, List.cons_append,
      List.append_assoc]
    have hrest : IsBehindValue (rest.tokens false ++ ts) := Members.isBehindValue_tokens_append h
    exact (Node.isLexical_tokens_append hrest).key key

theorem Members.isBehindValue_tokens_append {members : Members} {ts : List Token}
    (h : IsBehindValue ts) : IsBehindValue (members.tokens false ++ ts) := by
  cases members with
  | closed => exact h.1.separated rfl
  | cut => exact h
  | member key v rest =>
    rw [Members.tokens_member, if_neg Bool.false_ne_true, List.append_assoc, List.cons_append,
      List.cons_append, List.cons_append, List.nil_append, List.append_assoc]
    have hrest : IsBehindValue (rest.tokens false ++ ts) := Members.isBehindValue_tokens_append h
    exact ((Node.isLexical_tokens_append hrest).key key).separated rfl

end

/-- No token of a document is unreadable or runs into the next. -/
theorem Node.isLexical_tokens (v : Node) : IsLexical v.tokens := by
  have hnil : IsBehindValue [] := ⟨isLexical_nil, nofun⟩
  exact List.append_nil v.tokens ▸ Node.isLexical_tokens_append hnil

/-- **The grammar of documents.** A text is that of a whole document exactly if its tokens are read
to that document and none of them is left. -/
theorem Node.isWritten_iff {v : Node} {cs : List Char} :
    v.IsWritten cs ↔ v.isWhole = true ∧ Node.read (Token.scan cs) = (v, []) := by
  obtain ⟨hstray, hseparated⟩ := v.isLexical_tokens
  constructor
  · rintro ⟨hv, hcs⟩
    rw [Token.scan_of_spaced hcs hseparated]
    have hread := Node.read_tokens_append hv [] []
    rw [List.append_nil] at hread
    exact ⟨hv, hread⟩
  · rintro ⟨hv, hread⟩
    have htokens : Token.scan cs = v.tokens := by
      have hrun := Place.tokens_of_read (p := .beforeValue []) trivial hv hread
      rwa [List.append_nil] at hrun
    refine ⟨hv, htokens ▸ Token.spaced_of_scan ?_⟩
    rwa [htokens]

/-- No text is that of two documents. -/
theorem Node.eq_of_isWritten {v w : Node} {cs : List Char} (hv : v.IsWritten cs)
    (hw : w.IsWritten cs) : v = w :=
  (Prod.mk.inj ((Node.isWritten_iff.mp hv).2.symm.trans (Node.isWritten_iff.mp hw).2)).1

end GlslCompliance.Json
