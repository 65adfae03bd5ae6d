import CypherExpr.Proofs.Regex.EscapeReaders

/-!
# Bracketed classes before the closing

A class ends with a bracket, and there is none in the closing, so a class that is not finished with
the pattern is not finished by the closing.
-/

namespace CypherExpr.Regex

variable (tail : List Char)

/-! ## Parts of bracketed classes -/

/-- What is literal only at the start of a class. -/
def openItems (flags : Flags) (chars : List Char) : OpenClass × List Char :=
  match chars with
  | ']' :: rest => ((⟨none, []⟩ : OpenClass).addSet (.singleton ']'), flags.skip rest)
  | chars => takeHyphens flags ⟨none, []⟩ (chars.length + 1) chars

/-- The start of a class, behind what is to be skipped. -/
def openFrom (flags : Flags) (chars : List Char) : Bool × OpenClass × List Char :=
  match chars with
  | '^' :: rest => (true, openItems flags (flags.skip rest))
  | chars => (false, openItems flags chars)

theorem openClass_eq (flags : Flags) (chars : List Char) :
    openClass flags chars = openFrom flags (flags.skip chars) := by
  unfold openClass openFrom
  generalize flags.skip chars = skipped
  cases skipped with
  | nil => rfl
  | cons c rest =>
      by_cases hcaret : c = '^'
      · subst hcaret
        simp only
        cases flags.skip rest with
        | nil => rfl
        | cons d more =>
            by_cases hbracket : d = ']'
            · subst hbracket
              rfl
            · simp [openItems, hbracket]
      · by_cases hbracket : c = ']'
        · subst hbracket
          rfl
        · simp [openItems, hcaret, hbracket]

/-- The start of a class as a reader. -/
def startClass (flags : Flags) (chars : List Char) : Option ((Bool × OpenClass) × List Char) :=
  let start := openClass flags chars
  some ((start.1, start.2.1), start.2.2)

theorem takeHyphens_reader (flags : Flags) (state : OpenClass) :
    Reader tail fun chars => some (takeHyphens flags state (chars.length + 1) chars) where
  leaves chars := by
    rw [takeHyphens_eq]
    exact .some (takeRun_suffix _ _ _ _)
  readsOn chars := by
    obtain ⟨hrun, hrest⟩ := takeRun_followed (· == '-') rfl flags (Followed.append chars)
      (Nat.lt_succ_self _) (Nat.lt_succ_self _)
    rw [takeHyphens_eq, takeHyphens_eq, hrun]
    exact .read hrest

theorem openItems_reader (flags : Flags) :
    Reader tail fun chars => some (openItems flags chars) :=
  .onHead (c := ']') (.skipAfter flags _) (takeHyphens_reader tail flags ⟨none, []⟩) (by decide)
    (fun _ => rfl) rfl fun c rest hc => by simp [openItems, hc]

theorem openFrom_reader (flags : Flags) :
    Reader tail fun chars =>
      some (((openFrom flags chars).1, (openFrom flags chars).2.1), (openFrom flags chars).2.2) :=
  .onHead (c := '^') (((openItems_reader tail flags).skip flags).map fun state => (true, state))
    ((openItems_reader tail flags).map fun state => (false, state)) (by decide) (fun _ => rfl) rfl
    fun c rest hc => by simp [openFrom, hc]

theorem startClass_reader (flags : Flags) : Reader tail (startClass flags) := by
  have heq : startClass flags = fun chars =>
      let start := openFrom flags (flags.skip chars)
      some ((start.1, start.2.1), start.2.2) := by
    funext chars
    rw [startClass, openClass_eq]
  rw [heq]
  exact (openFrom_reader tail flags).skip flags

theorem startClass_followed (flags : Flags) {chars chars' : List Char}
    (hchars : Followed chars chars') :
    ∃ start body body', startClass flags chars = some (start, body) ∧
      startClass flags chars' = some (start, body') ∧ Followed body body' ∧
      body <:+ chars ∧ body' <:+ chars' := by
  have hleaves := (startClass_reader [] flags).leaves chars
  have hleaves' := (startClass_reader [] flags).leaves chars'
  have hread := (startClass_reader [] flags).followed hchars
  generalize hstart : startClass flags chars = outcome at hread hleaves
  generalize hstart' : startClass flags chars' = outcome' at hread hleaves'
  cases hread with
  | read hbody => exact ⟨_, _, _, rfl, rfl, hbody, hleaves _ rfl, hleaves' _ rfl⟩
  | failed => simp [startClass] at hstart
  | beyond => simp [startClass] at hstart

/-- The name of a class and the signs that close it. -/
def posixName (flags : Flags) (negated : Bool) (chars : List Char) :
    Option (CharSet × List Char) :=
  match splitAt? [':'] chars with
  | some (name, ']' :: rest) =>
      (CharSet.posixClass (String.ofList name)).map fun set => (flags.finish negated set, rest)
  | _ => none

theorem readPosix_of_head {flags : Flags} {chars : List Char} (hchars : chars.head? ≠ some '^') :
    readPosix flags chars = posixName flags false chars := by
  cases chars with
  | nil => rfl
  | cons c rest =>
      have hc : c ≠ '^' := by simpa using hchars
      simp only [readPosix, List.cons.injEq, hc, false_and, imp_self, implies_true]
      rfl

theorem posixName_append (flags : Flags) (negated : Bool) (chars : List Char) :
    posixName flags negated (chars ++ closing) =
      (posixName flags negated chars).map fun found => (found.1, found.2 ++ closing) := by
  unfold posixName
  rw [splitAt?_append (by decide)]
  cases splitAt? [':'] chars with
  | none => rfl
  | some split =>
      obtain ⟨name, rest⟩ := split
      cases rest with
      | nil => simp [closing]
      | cons c rest =>
          by_cases hc : c = ']'
          · subst hc
            simp [Function.comp_def]
          · simp [hc]

theorem readPosix_append (flags : Flags) (chars : List Char) :
    readPosix flags (chars ++ closing) =
      (readPosix flags chars).map fun found => (found.1, found.2 ++ closing) := by
  cases chars with
  | nil => exact posixName_append flags false []
  | cons c rest =>
      by_cases hc : c = '^'
      · subst hc
        exact posixName_append flags true rest
      · have hhead : (c :: rest).head? ≠ some '^' := by simpa using hc
        have hhead' : (c :: rest ++ closing).head? ≠ some '^' := by simpa using hc
        rw [readPosix_of_head hhead, readPosix_of_head hhead', posixName_append]

theorem leaves_posixName (flags : Flags) (negated : Bool) (chars : List Char) :
    Leaves chars (posixName flags negated chars) := by
  unfold posixName
  split
  · next name rest hsplit =>
      have hrest := (List.suffix_cons ']' rest).trans (splitAt?_suffix hsplit)
      exact ((Reader.optional _ _ : Reader [] _).leaves rest).trans hrest
  · exact .none

theorem leaves_readPosix (flags : Flags) (chars : List Char) :
    Leaves chars (readPosix flags chars) := by
  by_cases hhead : chars.head? = some '^'
  · obtain ⟨rest, rfl⟩ := List.head?_eq_some_iff.mp hhead
    exact (leaves_posixName flags true rest).trans (List.suffix_cons '^' rest)
  · rw [readPosix_of_head hhead]
    exact leaves_posixName flags false chars

/-- Without Unicode a class holds literal characters of ASCII only. -/
def Atom.isAdmitted (flags : Flags) : Atom → Bool
  | .literal c => flags.unicode || decide (c.toNat < 128)
  | _ => true

theorem readClassAtom_backslash (flags : Flags) (rest : List Char) :
    readClassAtom flags ('\\' :: rest) =
      (readEscape flags rest).bind fun found =>
        if found.1.isAdmitted flags then some found else none := by
  simp only [readClassAtom, Option.bind_eq_bind]
  congr 1
  funext found
  obtain ⟨atom, after⟩ := found
  cases atom <;> simp [Atom.isAdmitted]

theorem leaves_readClassAtom (flags : Flags) (chars : List Char) :
    Leaves chars.tail (readClassAtom flags chars) := by
  cases chars with
  | nil => exact .none
  | cons c rest =>
      by_cases hc : c = '\\'
      · subst hc
        rw [readClassAtom_backslash]
        exact ((leaves_readEscape flags rest).trans (List.tail_suffix rest)).bind fun _ =>
          .ite (.some (List.suffix_refl _)) .none
      · simp only [readClassAtom]
        exact .ite (.some (List.suffix_refl rest)) .none

/-- A class has no use for a position, so what comes of an unfinished boundary name fails too. -/
theorem readClassAtom_readsOn {flags : Flags} {β : Type} {next : Atom × List Char →
    Option (β × List Char)} (hnext : ∀ atom, Reader closing fun rest => next (atom, rest))
    (hlook : ∀ boundary rest, next (.look boundary, rest) = none) {chars chars' : List Char}
    (hchars : Followed chars chars') :
    ReadsOn closing ((readClassAtom flags chars).bind next)
      ((readClassAtom flags chars').bind next) := by
  have hatom {outcome outcome' : Option (Atom × List Char)}
      (houtcome : ReadsOn ['$'] outcome outcome') :
      ReadsOn closing (outcome.bind next) (outcome'.bind next) :=
    (houtcome.weaken (List.suffix_cons ')' ['$'])).bind
      (fun atom _ _ hrest => (hnext atom).followed hrest)
      fun found => (hnext found.1).leaves found.2
  cases hchars with
  | nil => exact hatom (.of_none (leaves_readClassAtom flags closing))
  | swallowed => exact .failed
  | cons c rest =>
      by_cases hc : c = '\\'
      · subst hc
        rw [readClassAtom_backslash, readClassAtom_backslash]
        by_cases hbrace : EndsAtBrace flags rest
        · obtain ⟨hnone, hboundary⟩ := readEscape_of_endsAtBrace hbrace
          rw [hnone]
          cases hescape : readEscape flags (rest ++ closing) with
          | none => exact .failed
          | some found =>
              obtain ⟨boundary, more, -, rfl⟩ := hboundary found hescape
              simpa [Atom.isAdmitted, hlook] using ReadsOn.failed
        · exact hatom ((readEscape_readsOn hbrace).bind
            (fun _ _ _ hrest => .ite (.read hrest) .failed) fun _ =>
              .ite (.some (List.suffix_refl _)) .none)
      · simp only [readClassAtom]
        exact hatom (.ite (.read (.append rest)) .failed)

/-- The range between two atoms. -/
def rangeBetween (first last : Atom) : Option CharSet :=
  match first, last with
  | .literal low, .literal high =>
      if low ≤ high then some (.ofPairs [(low.toNat, high.toNat)]) else none
  | _, _ => none

/-- What follows the first atom of an item. -/
def itemFrom (flags : Flags) (first : Atom) (chars : List Char) : Option (CharSet × List Char) :=
  match chars with
  | '-' :: more =>
      if flags.peek more == some ']' || flags.peek more == some '-' then
        first.asSet.map fun set => (set, '-' :: more)
      else
        (readClassAtom flags (flags.skip more)).bind fun found =>
          (rangeBetween first found.1).map fun set => (set, found.2)
  | [] => none
  | chars => first.asSet.map fun set => (set, chars)

theorem itemFrom_of_ne {flags : Flags} {first : Atom} {c : Char} (hc : c ≠ '-')
    (rest : List Char) :
    itemFrom flags first (c :: rest) = first.asSet.map fun set => (set, c :: rest) := by
  simp [itemFrom, hc]

theorem readClassItem_eq (flags : Flags) (chars : List Char) :
    readClassItem flags chars = (readClassAtom flags chars).bind fun found =>
      itemFrom flags found.1 (flags.skip found.2) := by
  simp only [readClassItem, Option.bind_eq_bind]
  congr 1
  funext found
  cases flags.skip found.2 with
  | nil => rfl
  | cons c rest =>
      by_cases hc : c = '-'
      · subst hc
        simp only [itemFrom]
        congr 2
        funext last
        obtain ⟨last, after⟩ := last
        cases found.1 <;> cases last <;> simp [rangeBetween]
      · rw [itemFrom_of_ne hc]
        simp [hc]

theorem leaves_itemFrom (flags : Flags) (first : Atom) (chars : List Char) :
    Leaves chars (itemFrom flags first chars) := by
  unfold itemFrom
  split
  · next more =>
      have hatom := (leaves_readClassAtom flags (flags.skip more)).trans (List.tail_suffix _)
      refine .ite ((Reader.optional first.asSet id : Reader [] _).leaves _) (Leaves.trans ?_
        ((flags.skip_suffix more).trans (List.suffix_cons '-' more)))
      exact hatom.bind fun found => (Reader.optional _ id : Reader [] _).leaves found.2
  · exact .none
  · exact (Reader.optional first.asSet id : Reader [] _).leaves _

/-- A position has no place in a class. -/
theorem itemFrom_look (flags : Flags) (boundary : Look) (chars : List Char) :
    itemFrom flags (.look boundary) chars = none := by
  unfold itemFrom
  split <;> simp [Atom.asSet, rangeBetween]

theorem itemFrom_reader (flags : Flags) (first : Atom) :
    Reader closing (itemFrom flags first) where
  leaves := leaves_itemFrom flags first
  readsOn chars := by
    cases chars with
    | nil => exact .of_none (leaves_itemFrom flags first closing)
    | cons c rest =>
        by_cases hc : c = '-'
        · subst hc
          have hbracket := (Followed.append rest).peek_beq flags (show ']' ≠ ')' by decide)
          have hhyphen := (Followed.append rest).peek_beq flags (show '-' ≠ ')' by decide)
          simp only [List.cons_append, itemFrom, hbracket, hhyphen]
          refine .ite ((Reader.optional first.asSet id).readsOn ('-' :: rest))
            (readClassAtom_readsOn (fun last => ?_) (fun boundary after => ?_)
              ((Followed.append rest).skip flags))
          · exact .optional (rangeBetween first last) id
          · simp [rangeBetween]
        · rw [List.cons_append, itemFrom_of_ne hc, itemFrom_of_ne hc]
          exact (Reader.optional first.asSet id).readsOn (c :: rest)

theorem readClassItem_reader (flags : Flags) (c : Char) :
    Reader closing fun rest => readClassItem flags (c :: rest) where
  leaves rest := by
    rw [readClassItem_eq]
    exact (leaves_readClassAtom flags (c :: rest)).bind fun found =>
      (leaves_itemFrom flags found.1 _).trans (flags.skip_suffix found.2)
  readsOn rest := by
    rw [readClassItem_eq, readClassItem_eq]
    exact readClassAtom_readsOn (fun first => (itemFrom_reader flags first).skip flags)
      (fun boundary after => itemFrom_look flags boundary _) (.cons c rest)

/-! ## Bracketed classes -/

/-- The sign of an operation between the parts of a class. -/
def readSetOp (chars : List Char) : Option (SetOp × List Char) :=
  match chars with
  | '&' :: '&' :: rest => some (.intersection, rest)
  | '-' :: '-' :: rest => some (.difference, rest)
  | '~' :: '~' :: rest => some (.symmetricDifference, rest)
  | _ => none

theorem readSetOp_eq_none {chars : List Char} (hand : ∀ rest, chars ≠ '&' :: '&' :: rest)
    (hhyphen : ∀ rest, chars ≠ '-' :: '-' :: rest) (htilde : ∀ rest, chars ≠ '~' :: '~' :: rest) :
    readSetOp chars = none := by
  unfold readSetOp
  split
  · exact absurd rfl (hand _)
  · exact absurd rfl (hhyphen _)
  · exact absurd rfl (htilde _)
  · rfl

/-- A named class behind an opening bracket, if there is one. -/
def posixPart (flags : Flags) (chars : List Char) : Option (CharSet × List Char) :=
  match chars with
  | ':' :: name => readPosix flags name
  | _ => none

theorem posixPart_eq_none (flags : Flags) {chars : List Char}
    (hname : ∀ name, chars ≠ ':' :: name) : posixPart flags chars = none := by
  unfold posixPart
  split
  · exact absurd rfl (hname _)
  · rfl

/-- A class in a class, behind its opening bracket. -/
def nestedPart (flags : Flags) (fuel : Nat) (chars : List Char) :
    Option (ClassPart × List Char) :=
  (startClass flags chars).bind fun start =>
    (readClass flags fuel start.1.2 start.2).bind fun inner =>
      (flags.screen (flags.finish start.1.1 inner.1.set)).map fun set =>
        (⟨set, inner.1.depth + 1⟩, inner.2)

/-- What is added to a class in one turn. -/
def readPart (flags : Flags) (fuel : Nat) (chars : List Char) : Option (ClassPart × List Char) :=
  match chars with
  | '[' :: rest =>
      match posixPart flags rest with
      | some (set, after) => (flags.screen set).map fun set => (⟨set, 0⟩, after)
      | none => nestedPart flags fuel rest
  | chars => (readClassItem flags chars).map fun item => (⟨item.1, 0⟩, item.2)

theorem readPart_of_ne {flags : Flags} {fuel : Nat} {c : Char} (hc : c ≠ '[') (rest : List Char) :
    readPart flags fuel (c :: rest) =
      (readClassItem flags (c :: rest)).map fun item => (⟨item.1, 0⟩, item.2) := by
  simp [readPart, hc]

theorem readPart_of_posix {flags : Flags} {fuel : Nat} {rest : List Char}
    {found : CharSet × List Char} (hposix : posixPart flags rest = some found) :
    readPart flags fuel ('[' :: rest) =
      (flags.screen found.1).map fun set => (⟨set, 0⟩, found.2) := by
  simp [readPart, hposix]

theorem readPart_of_nested {flags : Flags} {fuel : Nat} {rest : List Char}
    (hposix : posixPart flags rest = none) :
    readPart flags fuel ('[' :: rest) = nestedPart flags fuel rest := by
  simp [readPart, hposix]

theorem bind_nestedPart {α : Type} (flags : Flags) (fuel : Nat) (rest : List Char)
    (next : ClassPart × List Char → Option α) :
    (nestedPart flags fuel rest).bind next =
      (readClass flags fuel (openClass flags rest).2.1 (openClass flags rest).2.2).bind fun inner =>
        (flags.screen (flags.finish (openClass flags rest).1 inner.1.set)).bind fun set =>
          next (⟨set, inner.1.depth + 1⟩, inner.2) := by
  rw [nestedPart, startClass, Option.bind_some, Option.bind_assoc]
  simp only [Option.bind_map]
  rfl

/-- One turn of reading a class. -/
def classTurn (flags : Flags) (fuel : Nat) (state : OpenClass) (chars : List Char) :
    Option (ClassPart × List Char) :=
  match readSetOp chars with
  | some (op, rest) => readClass flags fuel (state.operate flags op) rest
  | none =>
      (readPart flags fuel chars).bind fun part => readClass flags fuel (state.add part.1) part.2

/-- The rest of a class, behind what is to be skipped. -/
def classFrom (flags : Flags) (fuel : Nat) (state : OpenClass) (chars : List Char) :
    Option (ClassPart × List Char) :=
  match chars with
  | [] => none
  | ']' :: rest => some (state.total flags, rest)
  | chars => classTurn flags fuel state chars

theorem classFrom_of_ne {flags : Flags} {fuel : Nat} {state : OpenClass} {c : Char} (hc : c ≠ ']')
    (rest : List Char) :
    classFrom flags fuel state (c :: rest) = classTurn flags fuel state (c :: rest) := by
  simp [classFrom, hc]

theorem readClass_succ (flags : Flags) (fuel : Nat) (state : OpenClass) (chars : List Char) :
    readClass flags (fuel + 1) state chars = classFrom flags fuel state (flags.skip chars) := by
  rw [readClass]
  generalize flags.skip chars = skipped
  split
  · rfl
  · rfl
  · rfl
  · rfl
  · rfl
  · next rest =>
      change _ = (readPart flags fuel ('[' :: rest)).bind fun part =>
        readClass flags fuel (state.add part.1) part.2
      split
      · next name =>
          cases hposix : readPosix flags name with
          | some found =>
              have hposix : posixPart flags (':' :: name) = some found := hposix
              rw [readPart_of_posix hposix, Option.bind_map]
              rfl
          | none =>
              have hposix : posixPart flags (':' :: name) = none := hposix
              rw [readPart_of_nested hposix, bind_nestedPart]
              dsimp only
              cases readClass flags fuel (openClass flags (':' :: name)).2.1
                (openClass flags (':' :: name)).2.2 <;> rfl
      · next hname =>
          rw [readPart_of_nested (posixPart_eq_none flags hname), bind_nestedPart]
          dsimp only
          cases readClass flags fuel (openClass flags rest).2.1 (openClass flags rest).2.2 <;> rfl
  · next hnil hclose hand hhyphen htilde hopen =>
      have hop : readSetOp skipped = none := readSetOp_eq_none hand hhyphen htilde
      cases skipped with
      | nil => exact absurd rfl hnil
      | cons c rest =>
          have hbracket : c ≠ ']' := fun heq => hclose rest (heq ▸ rfl)
          have hc : c ≠ '[' := fun heq => hopen rest (heq ▸ rfl)
          simp only [classFrom_of_ne hbracket, classTurn, hop, readPart_of_ne hc]
          cases readClassItem flags (c :: rest) <;> rfl

theorem leaves_readSetOp (chars : List Char) : Leaves chars.tail (readSetOp chars) := by
  unfold readSetOp
  split
  any_goals exact .some (List.suffix_cons _ _)
  exact .none

theorem readSetOp_append (c : Char) (rest : List Char) :
    readSetOp (c :: (rest ++ closing)) =
      (readSetOp (c :: rest)).map fun found => (found.1, found.2 ++ closing) := by
  cases rest with
  | nil => simp [readSetOp, closing]
  | cons d rest =>
      rw [List.cons_append]
      by_cases hand : c = '&' ∧ d = '&'
      · obtain ⟨rfl, rfl⟩ := hand
        rfl
      · by_cases hhyphen : c = '-' ∧ d = '-'
        · obtain ⟨rfl, rfl⟩ := hhyphen
          rfl
        · by_cases htilde : c = '~' ∧ d = '~'
          · obtain ⟨rfl, rfl⟩ := htilde
            rfl
          · have hnone (rest : List Char) : readSetOp (c :: d :: rest) = none := by
              unfold readSetOp
              split <;> simp_all
            rw [hnone, hnone]
            rfl

theorem leaves_posixPart (flags : Flags) (chars : List Char) :
    Leaves chars (posixPart flags chars) := by
  unfold posixPart
  split
  · next name => exact (leaves_readPosix flags name).trans (List.suffix_cons ':' name)
  · exact .none

theorem posixPart_append (flags : Flags) (chars : List Char) :
    posixPart flags (chars ++ closing) =
      (posixPart flags chars).map fun found => (found.1, found.2 ++ closing) := by
  cases chars with
  | nil => rfl
  | cons c name =>
      by_cases hc : c = ':'
      · subst hc
        exact readPosix_append flags name
      · simp [posixPart, hc]

section Leaves

variable {flags : Flags} {fuel : Nat}
  (hclass : ∀ state chars, Leaves chars (readClass flags fuel state chars))
include hclass

theorem leaves_nestedPart (chars : List Char) : Leaves chars (nestedPart flags fuel chars) := by
  refine ((startClass_reader [] flags).leaves chars).bind fun start => ?_
  exact (hclass start.1.2 start.2).bind fun inner =>
    (Reader.optional _ _ : Reader [] _).leaves inner.2

theorem leaves_readPart (chars : List Char) : Leaves chars.tail (readPart flags fuel chars) := by
  unfold readPart
  split
  · next rest =>
      split
      · next set after hposix =>
          exact ((Reader.optional _ _ : Reader [] _).leaves after).trans
            (leaves_posixPart flags rest _ hposix)
      · exact leaves_nestedPart hclass rest
  · cases chars with
    | nil => exact .none
    | cons c rest => exact ((readClassItem_reader flags c).leaves rest).map (ClassPart.mk · 0)

theorem leaves_classTurn (state : OpenClass) (chars : List Char) :
    Leaves chars.tail (classTurn flags fuel state chars) := by
  unfold classTurn
  split
  · next op rest hop => exact (hclass _ rest).trans (leaves_readSetOp chars _ hop)
  · exact (leaves_readPart hclass chars).bind fun part => hclass _ part.2

end Leaves

theorem leaves_readClass (flags : Flags) (fuel : Nat) (state : OpenClass) (chars : List Char) :
    Leaves chars (readClass flags fuel state chars) := by
  induction fuel generalizing state chars with
  | zero => exact .none
  | succ fuel ih =>
      rw [readClass_succ]
      refine Leaves.trans ?_ (flags.skip_suffix chars)
      unfold classFrom
      split
      · exact .none
      · next rest hrest => rw [hrest]; exact .some (List.suffix_cons _ rest)
      · exact (leaves_classTurn ih state _).trans (List.tail_suffix _)

/-- A class needs a closing bracket. -/
theorem readClass_eq_none {chars : List Char} (hchars : ']' ∉ chars) (flags : Flags) (fuel : Nat)
    (state : OpenClass) : readClass flags fuel state chars = none := by
  induction fuel generalizing state chars with
  | zero => rfl
  | succ fuel ih =>
      rw [readClass_succ]
      have hskip : ']' ∉ flags.skip chars := fun hmem =>
        hchars ((flags.skip_suffix chars).subset hmem)
      have hafter {α : Type} {outcome : Option (α × List Char)}
          (hleaves : Leaves (flags.skip chars).tail outcome) {result : α × List Char}
          (hresult : outcome = some result) : ']' ∉ result.2 := fun hmem =>
        hskip ((List.tail_suffix _).subset ((hleaves result hresult).subset hmem))
      unfold classFrom
      split
      · rfl
      · next rest hrest => simp [hrest] at hskip
      · unfold classTurn
        split
        · next op rest hop => exact ih (hafter (leaves_readSetOp _) hop) _
        · rw [Option.bind_eq_none_iff]
          intro part hpart
          exact ih (hafter (leaves_readPart (leaves_readClass flags fuel) _) hpart) _

section ReadsOn

variable {flags : Flags} {fuel fuel' : Nat} {rest : List Char}
  (hclass : ∀ state chars chars', Followed chars chars' → chars.length ≤ rest.length →
    chars'.length ≤ (rest ++ closing).length →
    ReadsOn [] (readClass flags fuel state chars) (readClass flags fuel' state chars'))
include hclass

theorem nestedPart_readsOn :
    ReadsOn [] (nestedPart flags fuel rest) (nestedPart flags fuel' (rest ++ closing)) := by
  obtain ⟨start, body, body', hstart, hstart', hbody, hsuffix, hsuffix'⟩ :=
    startClass_followed flags (Followed.append rest)
  simp only [nestedPart, hstart, hstart', Option.bind_some]
  refine (hclass _ body body' hbody hsuffix.length_le hsuffix'.length_le).bind
    (fun inner after after' hafter => ?_) fun inner => ?_
  · exact (Reader.optional _ _).followed hafter
  · exact (Reader.optional _ _ : Reader [] _).leaves inner.2

theorem readPart_readsOn (c : Char) :
    ReadsOn closing (readPart flags fuel (c :: rest))
      (readPart flags fuel' (c :: (rest ++ closing))) := by
  by_cases hc : c = '['
  · subst hc
    simp only [readPart, posixPart_append]
    cases posixPart flags rest with
    | some found => exact (Reader.optional _ _).readsOn found.2
    | none => exact (nestedPart_readsOn hclass).weaken (List.nil_suffix)
  · rw [readPart_of_ne hc, readPart_of_ne hc]
    exact ((readClassItem_reader flags c).readsOn rest).map (ClassPart.mk · 0)

theorem classTurn_readsOn (state : OpenClass) (c : Char) :
    ReadsOn [] (classTurn flags fuel state (c :: rest))
      (classTurn flags fuel' state (c :: (rest ++ closing))) := by
  unfold classTurn
  rw [readSetOp_append]
  cases hop : readSetOp (c :: rest) with
  | some found =>
      have hlength : found.2.length ≤ rest.length := (leaves_readSetOp _ found hop).length_le
      exact hclass _ _ _ (.append found.2) hlength (by simpa using hlength)
  | none =>
      have hpart := readPart_readsOn hclass c
      have hleaves := leaves_readPart (leaves_readClass flags fuel) (c :: rest)
      have hleaves' := leaves_readPart (leaves_readClass flags fuel') (c :: (rest ++ closing))
      simp only [Option.map_none]
      generalize readPart flags fuel (c :: rest) = outcome at hpart hleaves ⊢
      generalize readPart flags fuel' (c :: (rest ++ closing)) = outcome' at hpart hleaves' ⊢
      cases hpart with
      | read hafter =>
          exact hclass _ _ _ hafter (hleaves _ rfl).length_le (hleaves' _ rfl).length_le
      | failed => exact .failed
      | beyond hafter =>
          -- an item has been read up to the closing, in which no class ends
          have hbracket : ']' ∉ closing := by decide
          rw [Option.bind_none, Option.bind_some,
            readClass_eq_none fun hmem => hbracket (hafter.subset hmem)]
          exact .failed

end ReadsOn

theorem readClass_readsOn (flags : Flags) (state : OpenClass) {chars chars' : List Char}
    (hchars : Followed chars chars') {fuel fuel' : Nat} (hfuel : chars.length < fuel)
    (hfuel' : chars'.length < fuel') :
    ReadsOn [] (readClass flags fuel state chars) (readClass flags fuel' state chars') := by
  induction fuel generalizing state chars chars' fuel' with
  | zero => exact absurd hfuel (Nat.not_lt_zero _)
  | succ fuel ih =>
      obtain ⟨fuel', rfl⟩ := Nat.exists_eq_add_one_of_ne_zero (Nat.ne_zero_of_lt hfuel')
      rw [readClass_succ, readClass_succ]
      have hskip := hchars.skip flags
      have hlength := (flags.skip_suffix chars).length_le
      have hlength' := (flags.skip_suffix chars').length_le
      generalize flags.skip chars = skipped, flags.skip chars' = skipped' at hskip hlength hlength'
      cases hskip with
      | cons c rest =>
          by_cases hc : c = ']'
          · subst hc
            exact .read (.append rest)
          · rw [List.length_cons] at hlength hlength'
            rw [classFrom_of_ne hc, classFrom_of_ne hc]
            exact classTurn_readsOn (fun state inner inner' hinner hle hle' =>
              ih state hinner (by omega) (by omega)) state c
      | nil =>
          have hclosing := readClass_eq_none (show ']' ∉ closing by decide) flags (fuel' + 1) state
          rw [readClass_succ, Flags.skip_closing] at hclosing
          rw [hclosing]
          exact .failed
      | swallowed => exact .failed

/-- A whole class as a reader of its set and the depth of its nesting. -/
def bracketSet (flags : Flags) (chars : List Char) : Option ((CharSet × Nat) × List Char) :=
  (startClass flags chars).bind fun start =>
    (readClass flags (2 * chars.length + 2) start.1.2 start.2).bind fun part =>
      (flags.screen (flags.finish start.1.1 part.1.set)).map fun set =>
        ((set, part.1.depth + 1), part.2)

theorem readBracketed_eq (flags : Flags) (chars : List Char) :
    readBracketed flags chars =
      (bracketSet flags chars).map fun found => (found.1.1, found.1.2, found.2) := by
  simp only [readBracketed, bracketSet, startClass, Option.bind_eq_bind, Option.bind_some]
  cases readClass flags (2 * chars.length + 2) (openClass flags chars).2.1
      (openClass flags chars).2.2 with
  | none => rfl
  | some part =>
      simp only [Option.bind_some]
      cases flags.screen (flags.finish (openClass flags chars).1 part.1.set) <;> rfl

theorem bracketSet_reader (flags : Flags) : Reader [] (bracketSet flags) where
  leaves chars := by
    refine ((startClass_reader [] flags).leaves chars).bind fun start => ?_
    exact (leaves_readClass _ _ _ _).bind fun part =>
      (Reader.optional _ _ : Reader [] _).leaves part.2
  readsOn chars := by
    obtain ⟨start, body, body', hstart, hstart', hbody, hsuffix, hsuffix'⟩ :=
      startClass_followed flags (Followed.append chars)
    have hlength := hsuffix.length_le
    have hlength' := hsuffix'.length_le
    simp only [bracketSet, hstart, hstart', Option.bind_some]
    refine (readClass_readsOn flags _ hbody (by omega) (by omega)).bind
      (fun part after after' hafter => ?_) fun part => ?_
    · exact (Reader.optional _ _).followed hafter
    · exact (Reader.optional _ _ : Reader [] _).leaves part.2

end CypherExpr.Regex
