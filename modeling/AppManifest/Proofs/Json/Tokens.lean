import AppManifest.Json.Tree

/-!
# The tokens of a tree

A tree is written as the tokens of its scalars between brackets, colons and commas. The tree builder
undoes this and accepts nothing else: a sequence of tokens has a tree without faults, and nothing
behind it, exactly if it is that of the tree (`Outline.ofTokens_eq_iff`). In one direction the
tokens of a value take the builder from a place where a value must follow to the place behind it
(`Tree.foldl_tokens`); in the other the builder accounts for all tokens that it took
(`Builder.Accounts`).
-/

namespace AppManifest

namespace Tree

mutual

/-- The tokens of a tree. -/
def tokens : Tree → List Token
  | .broken => [.bad]
  | .scalar value => [.scalar value]
  | .array [] _ => [.openArray, .closeArray]
  | .array (item :: rest) _ => .openArray :: (item.tokens ++ moreItems rest)
  | .object [] _ => [.openObject, .closeObject]
  | .object ((name, value) :: rest) _ =>
      .openObject :: .scalar (.string name) :: .colon :: (value.tokens ++ moreMembers rest)

/-- The tokens of the further items of an array, to its end. -/
def moreItems : List Tree → List Token
  | [] => [.closeArray]
  | item :: rest => .comma :: (item.tokens ++ moreItems rest)

/-- The tokens of the further members of an object, to its end. -/
def moreMembers : List (Option String × Tree) → List Token
  | [] => [.closeObject]
  | (name, value) :: rest =>
      .comma :: .scalar (.string name) :: .colon :: (value.tokens ++ moreMembers rest)

end

/-- The tree is that of a text: it has no fault, and the text has its tokens. -/
structure IsOf (tree : Tree) (text : String) : Prop where
  isWellFormed : tree.isWellFormed = true
  scan_eq : Token.scan text.toList = tree.tokens

/-! ## From tokens to trees -/

/-- No value starts with the bracket that closes an array, so one behind an opening bracket is taken
as the first item. -/
theorem foldl_atFirst (tree : Tree) (rest : List Token) (frames : List Frame) :
    (tree.tokens ++ rest).foldl Builder.step (.atFirst frames) =
      (tree.tokens ++ rest).foldl Builder.step (.atValue (.array [] :: frames)) := by
  obtain _ | _ | ⟨_ | _, _⟩ | ⟨_ | _, _⟩ := tree <;> rfl

mutual

/-- The tokens of a value take the builder behind it. -/
theorem foldl_tokens : (tree : Tree) → tree.isWellFormed = true → (frames : List Frame) →
    tree.tokens.foldl Builder.step (.atValue frames) = .complete frames tree
  | .broken, h, _ => by cases h
  | .scalar _, _, _ => rfl
  | .array [] closed, h, _ => by
      cases closed with
      | true => rfl
      | false => cases h
  | .array (item :: rest) closed, h, frames => by
      obtain ⟨hitems, rfl⟩ := Bool.and_eq_true_iff.1 h
      obtain ⟨hitem, hrest⟩ := Bool.and_eq_true_iff.1 hitems
      show List.foldl _ (Builder.atFirst frames) (item.tokens ++ moreItems rest) = _
      rw [foldl_atFirst, List.foldl_append, foldl_tokens item hitem]
      exact foldl_moreItems rest hrest item [] frames
  | .object [] closed, h, _ => by
      cases closed with
      | true => rfl
      | false => cases h
  | .object ((name, value) :: rest) closed, h, frames => by
      obtain ⟨hmembers, rfl⟩ := Bool.and_eq_true_iff.1 h
      obtain ⟨hvalue, hrest⟩ := Bool.and_eq_true_iff.1 hmembers
      show List.foldl _ (Builder.atValue (.object [] name :: frames))
        (value.tokens ++ moreMembers rest) = _
      rw [List.foldl_append, foldl_tokens value hvalue]
      exact foldl_moreMembers rest hrest name value [] frames

/-- The tokens of further items take the builder behind their array. -/
theorem foldl_moreItems : (rest : List Tree) → areWellFormed rest = true → (item : Tree) →
    (before : List Tree) → (frames : List Frame) →
    (moreItems rest).foldl Builder.step (.complete (.array before :: frames) item) =
      .complete frames (.array ((item :: before).reverse ++ rest) true)
  | [], _, item, before, _ => by
      rw [List.append_nil]
      rfl
  | next :: rest, h, item, before, frames => by
      obtain ⟨hnext, hrest⟩ := Bool.and_eq_true_iff.1 h
      show List.foldl _ (Builder.atValue (.array (item :: before) :: frames))
        (next.tokens ++ moreItems rest) = _
      rw [List.foldl_append, foldl_tokens next hnext, foldl_moreItems rest hrest, List.append_cons,
        ← List.reverse_cons]

/-- The tokens of further members take the builder behind their object. -/
theorem foldl_moreMembers : (rest : List (Option String × Tree)) →
    areMembersWellFormed rest = true → (name : Option String) → (value : Tree) →
    (before : List (Option String × Tree)) → (frames : List Frame) →
    (moreMembers rest).foldl Builder.step (.complete (.object before name :: frames) value) =
      .complete frames (.object (((name, value) :: before).reverse ++ rest) true)
  | [], _, name, value, before, _ => by
      rw [List.append_nil]
      rfl
  | (next, inner) :: rest, h, name, value, before, frames => by
      obtain ⟨hinner, hrest⟩ := Bool.and_eq_true_iff.1 h
      show List.foldl _ (Builder.atValue (.object ((name, value) :: before) next :: frames))
        (inner.tokens ++ moreMembers rest) = _
      rw [List.foldl_append, foldl_tokens inner hinner, foldl_moreMembers rest hrest,
        List.append_cons, ← List.reverse_cons]

end

end Tree

/-! ## From trees to tokens -/

/-- The tokens of a member and the comma behind it. -/
def Tree.memberTokens (member : Option String × Tree) : List Token :=
  .scalar (.string member.1) :: .colon :: (member.2.tokens ++ [.comma])

/-- Behind further items, the last one is written between a comma and the bracket. -/
theorem Tree.moreItems_concat (front : List Tree) (last : Tree) :
    moreItems (front ++ [last]) =
      .comma :: (front.flatMap (·.tokens ++ [.comma]) ++ (last.tokens ++ [.closeArray])) := by
  induction front with
  | nil => rfl
  | cons item rest ih =>
      rw [List.cons_append, moreItems, ih, List.flatMap_cons]
      simp only [List.append_assoc, List.cons_append, List.nil_append]

/-- The items of an array but the last are written with commas behind them. -/
theorem Tree.tokens_array (front : List Tree) (last : Tree) (closed : Bool) :
    (Tree.array (front ++ [last]) closed).tokens =
      .openArray :: (front.flatMap (·.tokens ++ [.comma]) ++ (last.tokens ++ [.closeArray])) := by
  cases front with
  | nil => rfl
  | cons item rest =>
      rw [List.cons_append, tokens, moreItems_concat, List.flatMap_cons]
      simp only [List.append_assoc, List.cons_append, List.nil_append]

/-- Behind further members, the last one is written between a comma and the brace. -/
theorem Tree.moreMembers_concat (front : List (Option String × Tree)) (name : Option String)
    (last : Tree) : moreMembers (front ++ [(name, last)]) =
      .comma :: (front.flatMap memberTokens ++
        .scalar (.string name) :: .colon :: (last.tokens ++ [.closeObject])) := by
  induction front with
  | nil => rfl
  | cons member rest ih =>
      obtain ⟨other, value⟩ := member
      rw [List.cons_append, moreMembers, ih, List.flatMap_cons, memberTokens]
      simp only [List.append_assoc, List.cons_append, List.nil_append]

/-- The members of an object but the last are written with commas behind them. -/
theorem Tree.tokens_object (front : List (Option String × Tree)) (name : Option String)
    (last : Tree) (closed : Bool) : (Tree.object (front ++ [(name, last)]) closed).tokens =
      .openObject :: (front.flatMap memberTokens ++
        .scalar (.string name) :: .colon :: (last.tokens ++ [.closeObject])) := by
  cases front with
  | nil => rfl
  | cons member rest =>
      obtain ⟨other, value⟩ := member
      rw [List.cons_append, tokens, moreMembers_concat, List.flatMap_cons, memberTokens]
      simp only [List.append_assoc, List.cons_append, List.nil_append]

/-- The tokens of an array or object up to the place at which the reader stands. -/
def Frame.tokens : Frame → List Token
  | .array items => .openArray :: items.reverse.flatMap (·.tokens ++ [.comma])
  | .object members name =>
      .openObject :: (members.reverse.flatMap Tree.memberTokens ++ [.scalar (.string name), .colon])

/-- The tokens of arrays and objects around a place, up to it. -/
def Frame.allTokens : List Frame → List Token
  | [] => []
  | frame :: frames => allTokens frames ++ frame.tokens

/-- The builder stands behind these tokens, all of which are in what it keeps, unless it stopped at
a fault or behind the end of the tree. -/
def Builder.Accounts (tokens : List Token) : Builder → Prop
  | .atValue frames => tokens = Frame.allTokens frames
  | .atFirst frames => tokens = Frame.allTokens frames ++ [.openArray]
  | .atName frames members =>
      tokens = Frame.allTokens frames ++ .openObject :: members.reverse.flatMap Tree.memberTokens
  | .atColon frames members name =>
      tokens = Frame.allTokens frames ++ .openObject ::
        (members.reverse.flatMap Tree.memberTokens ++ [.scalar (.string name)])
  | .complete frames value => tokens = Frame.allTokens frames ++ value.tokens
  | .stopped tree trailing => trailing = true ∨ tree.isWellFormed = false

namespace Builder

variable {front : List Token} {frames : List Frame} {builder : Builder}

/-- An object without its closing brace has a fault. -/
theorem isWellFormed_open (members : List (Option String × Tree)) :
    (Tree.object members false).isWellFormed = false :=
  Bool.and_false _

/-- An array or object in which the reader stands is not closed, which is a fault. -/
theorem isWellFormed_wrap (inner : Tree) (frame : Frame) :
    (frame.wrap inner).isWellFormed = false := by
  cases frame <;> exact Bool.and_false _

/-- A fault is one of the tree around it. -/
theorem isWellFormed_foldl_wrap {inner : Tree} (h : inner.isWellFormed = false) :
    (frames.foldl Frame.wrap inner).isWellFormed = false := by
  induction frames generalizing inner with
  | nil => exact h
  | cons frame rest ih => exact ih (isWellFormed_wrap inner frame)

/-- A builder that halts at a fault or inside an array or object keeps account. -/
theorem accounts_halt {inner : Tree} (h : inner.isWellFormed = false ∨ frames ≠ []) :
    (halt frames inner).Accounts front := by
  refine .inr ?_
  cases frames with
  | nil => exact h.resolve_right (· rfl)
  | cons frame rest =>
      show (rest.foldl Frame.wrap (frame.wrap inner)).isWellFormed = false
      exact isWellFormed_foldl_wrap (isWellFormed_wrap inner frame)

/-- Taking the first token of a value keeps account. -/
theorem accounts_startValue (h : front = Frame.allTokens frames) (token : Token) :
    (startValue frames token).Accounts (front ++ [token]) := by
  cases token with
  | scalar | openArray | openObject => rw [h]; rfl
  | closeArray | closeObject | comma | colon | bad => exact accounts_halt (.inl rfl)

/-- Taking the token in the place of a name keeps account. -/
theorem accounts_startName {members : List (Option String × Tree)}
    (h : front = Frame.allTokens frames ++
      .openObject :: members.reverse.flatMap Tree.memberTokens) (token : Token) :
    (startName frames members token).Accounts (front ++ [token]) := by
  have hopen := isWellFormed_open members.reverse
  cases token with
  | scalar value =>
      cases value with
      | string name =>
          show _ = _
          rw [h, List.append_assoc]
          rfl
      | null | bool | number => exact accounts_halt (.inl hopen)
  | closeObject =>
      rw [startName]
      split
      next hempty =>
        obtain rfl := List.isEmpty_iff.1 hempty
        show _ = _
        rw [h, List.append_assoc]
        rfl
      next => exact accounts_halt (.inl hopen)
  | openArray | closeArray | openObject | comma | colon | bad => exact accounts_halt (.inl hopen)

/-- Taking the token behind a value keeps account. -/
theorem accounts_afterValue {value : Tree} (h : front = Frame.allTokens frames ++ value.tokens)
    (token : Token) : (afterValue value frames token).Accounts (front ++ [token]) := by
  cases frames with
  | nil => exact .inl rfl
  | cons frame rest =>
      have hinside : frame :: rest ≠ [] := List.cons_ne_nil _ _
      subst h
      cases frame with
      | array items =>
          cases token with
          | comma =>
              show _ = _
              simp [Frame.allTokens, Frame.tokens]
          | closeArray =>
              show _ = _
              rw [List.reverse_cons, Tree.tokens_array]
              simp [Frame.allTokens, Frame.tokens]
          | openArray | openObject | closeObject | colon | scalar | bad =>
              exact accounts_halt (.inr hinside)
      | object members name =>
          cases token with
          | comma =>
              show _ = _
              simp [Frame.allTokens, Frame.tokens, Tree.memberTokens]
          | closeObject =>
              show _ = _
              rw [List.reverse_cons, Tree.tokens_object]
              simp [Frame.allTokens, Frame.tokens]
          | openArray | closeArray | openObject | colon | scalar | bad =>
              exact accounts_halt (.inr hinside)

/-- Taking a token keeps account. -/
theorem Accounts.step (h : builder.Accounts front) (token : Token) :
    (builder.step token).Accounts (front ++ [token]) := by
  cases builder with
  | atValue frames => exact accounts_startValue h token
  | atFirst frames =>
      -- but for the closing bracket, the token is taken inside the array
      have hinside : front = Frame.allTokens (.array [] :: frames) := h
      cases token with
      | closeArray =>
          show _ = _
          rw [h, List.append_assoc]
          rfl
      | openArray | openObject | closeObject | comma | colon | scalar | bad =>
          exact accounts_startValue hinside _
  | atName frames members => exact accounts_startName h token
  | atColon frames members name =>
      have hopen := isWellFormed_open ((name, .broken) :: members).reverse
      cases token with
      | colon =>
          show _ = _
          rw [h]
          simp [Frame.allTokens, Frame.tokens]
      | openArray | closeArray | openObject | closeObject | comma | scalar | bad =>
          exact accounts_halt (.inl hopen)
  | complete frames value => exact accounts_afterValue h token
  | stopped tree trailing => exact h

/-- Taking tokens keeps account. -/
theorem Accounts.foldl (h : builder.Accounts front) (tokens : List Token) :
    (tokens.foldl Builder.step builder).Accounts (front ++ tokens) := by
  induction tokens generalizing front builder with
  | nil => rwa [List.append_nil]
  | cons token rest ih =>
      rw [List.append_cons]
      exact ih (h.step token)

/-- When the tree has no fault and nothing follows it, all tokens are those of the tree. -/
theorem Accounts.eq_tokens (h : builder.Accounts front)
    (hfinish : builder.finish.isWellFormed = true) (htrailing : builder.hasTrailing = false) :
    front = builder.finish.tokens := by
  have hopen {inner : Tree} {frames : List Frame} (hinner : inner.isWellFormed = false) :
      (frames.foldl Frame.wrap inner).isWellFormed ≠ true := by
    rw [isWellFormed_foldl_wrap hinner]
    exact Bool.false_ne_true
  cases builder with
  | atValue | atFirst => exact (hopen rfl hfinish).elim
  | atName | atColon => exact (hopen (isWellFormed_open _) hfinish).elim
  | complete frames value =>
      cases frames with
      | nil => exact h
      | cons frame rest =>
          have hinside := isWellFormed_wrap value frame
          exact (hopen hinside hfinish).elim
  | stopped tree trailing =>
      obtain htrue | hfault := h
      · cases htrailing.symm.trans htrue
      · cases hfault.symm.trans hfinish

end Builder

namespace Outline

/-- A sequence of tokens has a tree without faults, and nothing behind it, exactly if it is that of
the tree. -/
theorem ofTokens_eq_iff {tokens : List Token} {tree : Tree} (h : tree.isWellFormed = true) :
    ofTokens tokens = ⟨tree, false⟩ ↔ tokens = tree.tokens := by
  constructor
  · intro houtline
    have hstart : (Builder.atValue []).Accounts [] := rfl
    have haccounts : (tokens.foldl Builder.step (.atValue [])).Accounts tokens :=
      hstart.foldl tokens
    obtain ⟨rfl, htrailing⟩ := Outline.mk.inj houtline
    exact haccounts.eq_tokens h htrailing
  · rintro rfl
    rw [ofTokens, Tree.foldl_tokens tree h []]
    rfl

/-- A text has a tree without faults, and nothing behind it, exactly if it has the tokens of the
tree. -/
theorem ofText_eq_iff {text : String} {tree : Tree} :
    (tree.isWellFormed = true ∧ ofText text = ⟨tree, false⟩) ↔ tree.IsOf text :=
  ⟨fun ⟨h, houtline⟩ => ⟨h, (ofTokens_eq_iff h).1 houtline⟩,
    fun h => ⟨h.isWellFormed, (ofTokens_eq_iff h.isWellFormed).2 h.scan_eq⟩⟩

end Outline

end AppManifest
