import ImageFallback.Syntax.Cooking
import Mathlib.Data.List.TakeWhile
import Mathlib.Logic.Basic

/-!
# Cooking a text around a word

The pieces of a text are read from left to right, with fuel. `read` is the same without fuel: a
character is a piece by itself, and an escape takes as many characters as it needs (`read_cons`,
`read_escape`).

No escape looks past a dot: a dot is no digit and no brace, so an escape that is not finished before
it has no meaning, whatever follows (`escape?_stopsAtDot`). Cooking a text with a dot is therefore
cooking both sides of it (`read_dot`), and a word that starts with a dot can be exchanged for another
one before or after cooking (`resolve?_around`).
-/

namespace ImageFallback.Cooking

/-! ## Reading without fuel -/

theorem length_of_unit? {cs rest : List Char} {n : Nat} (h : Json.unit? cs = some (n, rest)) :
    rest.length < cs.length := by
  unfold Json.unit? at h
  split at h
  · obtain ⟨value, -, same⟩ := Option.map_eq_some_iff.1 h
    cases same
    simp only [List.length_cons]
    omega
  · cases h

theorem length_of_braced? {cs rest : List Char} {piece : Piece}
    (h : braced? cs = some (piece, rest)) : rest.length < cs.length := by
  unfold braced? at h
  dsimp only at h
  split at h
  · rename_i c after found
    split at h
    · cases h
    · obtain ⟨n, -, h⟩ := Option.bind_eq_some_iff.1 h
      split at h
      · cases h
        have shorter := (List.dropWhile_suffix (l := cs) (· != '\x7d')).length_le
        rw [found, List.length_cons] at shorter
        exact shorter
      · cases h
  · cases h

theorem length_of_quad? {cs rest : List Char} {piece : Piece}
    (h : quad? cs = some (piece, rest)) : rest.length < cs.length := by
  unfold quad? at h
  obtain ⟨⟨first, after⟩, read, h⟩ := Option.bind_eq_some_iff.1 h
  have shorter := length_of_unit? read
  dsimp only at h
  split at h
  · split at h
    · split at h
      · rename_i second later read'
        have shorter' := length_of_unit? read'
        split at h
        · cases h
          simp only [List.length_cons] at shorter
          omega
        · cases h
          exact shorter
      · cases h
        exact shorter
    · cases h
      exact shorter
  · cases h
    exact shorter

/-- An escape takes at least the character after the backslash. -/
theorem length_of_escape? {cs rest : List Char} {pieces : List Piece}
    (h : escape? true cs = some (pieces, rest)) : rest.length < cs.length := by
  unfold escape? at h
  split at h
  · cases h
  iterate 6
    · cases h
      exact Nat.lt_succ_self _
  · split at h
    · obtain ⟨n, -, same⟩ := Option.map_eq_some_iff.1 h
      cases same
      simp only [List.length_cons]
      omega
    · cases h
  · split at h
    · obtain ⟨⟨piece, after⟩, read, same⟩ := Option.map_eq_some_iff.1 h
      cases same
      have shorter := length_of_braced? read
      simp only [List.length_cons]
      omega
    · obtain ⟨⟨piece, after⟩, read, same⟩ := Option.map_eq_some_iff.1 h
      cases same
      exact Nat.lt_succ_of_lt (length_of_quad? read)
  · cases h
    simp only [List.length_cons]
    omega
  · simp only [if_true] at h
    split at h
    · cases h
      exact Nat.lt_succ_self _
    · rcases ite_eq_iff.1 h with ⟨-, h⟩ | ⟨-, h⟩
      · rcases ite_eq_iff.1 h with ⟨-, h⟩ | ⟨-, h⟩
        · cases h
          exact Nat.lt_succ_self _
        · cases h
      · cases h
        exact Nat.lt_succ_self _

/-- How much fuel there is does not matter, as long as it is enough for all characters. -/
theorem pieces?_congr {fuel fuel' : Nat} {cs : List Char} (enough : cs.length ≤ fuel)
    (enough' : cs.length ≤ fuel') : pieces? true fuel cs = pieces? true fuel' cs := by
  induction fuel generalizing fuel' cs with
  | zero =>
      obtain rfl := List.length_eq_zero_iff.1 (Nat.le_zero.1 enough)
      cases fuel' <;> rfl
  | succ fuel ih =>
      cases cs with
      | nil => cases fuel' <;> rfl
      | cons c rest =>
          cases fuel' with
          | zero => cases enough'
          | succ fuel' =>
              have more := Nat.le_of_succ_le_succ enough
              have more' := Nat.le_of_succ_le_succ enough'
              rw [pieces?, pieces?, ih more more']
              split
              · refine Option.bind_congr fun ⟨first, left⟩ read => ?_
                have shorter := Nat.le_of_lt (length_of_escape? read)
                dsimp only
                rw [ih (Nat.le_trans shorter more) (Nat.le_trans shorter more')]
              · rfl

/-- The pieces of a stretch of a template. -/
def read (cs : List Char) : Option (List Piece) := pieces? true cs.length cs

theorem resolve?_eq (cs : List Char) : resolve? true cs = (read cs).map textOf := rfl

theorem read_nil : read [] = some [] := rfl

theorem read_cons {c : Char} (plain : c ≠ '\\') (rest : List Char) :
    read (c :: rest) = (read rest).map (.whole c :: ·) := by
  simp [read, pieces?, plain]

theorem read_escape (rest : List Char) :
    read ('\\' :: rest) =
      (escape? true rest).bind fun found => (read found.2).map (found.1 ++ ·) := by
  simp only [read, pieces?, List.length_cons, beq_self_eq_true, if_true]
  refine Option.bind_congr fun found escaped => ?_
  rw [pieces?_congr (Nat.le_of_lt (length_of_escape? escaped)) (Nat.le_refl _)]
  cases pieces? true found.2.length found.2 <;> rfl

theorem read_append {word : List Char} (plain : '\\' ∉ word) (rest : List Char) :
    read (word ++ rest) = (read rest).map (word.map .whole ++ ·) := by
  induction word with
  | nil => simp
  | cons c word ih =>
      rw [List.mem_cons, not_or] at plain
      rw [List.cons_append, read_cons (Ne.symm plain.1), ih plain.2, Option.map_map]
      rfl

/-! ## Escapes end at a dot -/

/-- What is read from a text up to some dot does not depend on what follows the dot: there is
nothing, or the dot is among the characters left over. -/
def StopsAtDot {α : Type} (reader : List Char → Option (α × List Char)) (before : List Char) :
    Prop :=
  (∀ after, reader (before ++ '.' :: after) = none) ∨
    ∃ result left, left.length ≤ before.length ∧
      ∀ after, reader (before ++ '.' :: after) = some (result, left ++ '.' :: after)

theorem StopsAtDot.map {α β : Type} {reader : List Char → Option (α × List Char)}
    {before : List Char} (h : StopsAtDot reader before) (f : α → β) :
    StopsAtDot (fun cs => (reader cs).map fun r => (f r.1, r.2)) before := by
  rcases h with refused | ⟨result, left, shorter, read⟩
  · exact Or.inl fun after => by simp only [refused, Option.map_none]
  · exact Or.inr ⟨f result, left, shorter, fun after => by simp only [read, Option.map_some]⟩

theorem StopsAtDot.of_eq {α : Type} {reader reader' : List Char → Option (α × List Char)}
    {before before' : List Char} (h : StopsAtDot reader before)
    (longer : before.length ≤ before'.length)
    (same : ∀ after, reader' (before' ++ '.' :: after) = reader (before ++ '.' :: after)) :
    StopsAtDot reader' before' := by
  rcases h with refused | ⟨result, left, shorter, read⟩
  · exact Or.inl fun after => (same after).trans (refused after)
  · exact Or.inr ⟨result, left, Nat.le_trans shorter longer,
      fun after => (same after).trans (read after)⟩

theorem hexValue?_of_dot_mem {cs : List Char} (dot : '.' ∈ cs) : Number.hexValue? cs = none := by
  unfold Number.hexValue?
  generalize 0 = acc
  induction cs generalizing acc with
  | nil => cases dot
  | cons c rest ih =>
      rw [List.foldlM_cons]
      rcases List.mem_cons.1 dot with rfl | later
      · rfl
      · cases (Number.hexDigit? c).map (16 * acc + ·) with
        | none => rfl
        | some value => exact ih later value

theorem unit?_of_dot_mem {cs : List Char} (dot : '.' ∈ cs.take 4) : Json.unit? cs = none := by
  unfold Json.unit?
  split
  · rename_i a b c d rest
    have refused : Number.hexValue? [a, b, c, d] = none := hexValue?_of_dot_mem dot
    rw [refused, Option.map_none]
  · rfl

theorem unit?_stopsAtDot (before : List Char) : StopsAtDot Json.unit? before := by
  match before with
  | a :: b :: c :: d :: left =>
      cases value : Number.hexValue? [a, b, c, d] with
      | none => exact Or.inl fun after => by simp [Json.unit?, value]
      | some n =>
          refine Or.inr ⟨n, left, ?_, fun after => by simp [Json.unit?, value]⟩
          simp only [List.length_cons]
          omega
  | [] | [_] | [_, _] | [_, _, _] => exact Or.inl fun after => unit?_of_dot_mem (by simp)

/-- The code point of the digits between braces. -/
def bracedCode? (digits : List Char) : Option Nat :=
  if digits.isEmpty then none else (Number.hexValue? digits).filter (· ≤ 0x10FFFF)

theorem braced?_closed {digits : List Char} (inside : '\x7d' ∉ digits) (rest : List Char) :
    braced? (digits ++ '\x7d' :: rest) =
      (bracedCode? digits).map fun n => (pieceOf n, rest) := by
  have each : ∀ c ∈ digits, (c != '\x7d') = true := by
    intro c mem
    exact bne_iff_ne.2 fun same => inside (same ▸ mem)
  have taken : (digits ++ '\x7d' :: rest).takeWhile (· != '\x7d') = digits := by
    rw [List.takeWhile_append_of_pos each]
    simp
  have dropped : (digits ++ '\x7d' :: rest).dropWhile (· != '\x7d') = '\x7d' :: rest := by
    rw [List.dropWhile_append_of_pos each]
    simp
  simp only [braced?, bracedCode?, taken, dropped]
  split
  · rfl
  · cases Number.hexValue? digits with
    | none => rfl
    | some n =>
        by_cases small : n ≤ 0x10FFFF
        · simp [small, Option.filter]
        · simp [small, Option.filter]

theorem braced?_open {cs : List Char} (unclosed : '\x7d' ∉ cs) : braced? cs = none := by
  have dropped : cs.dropWhile (· != '\x7d') = [] := by
    rw [List.dropWhile_eq_nil_iff]
    intro c mem
    exact bne_iff_ne.2 fun same => unclosed (same ▸ mem)
  simp only [braced?, dropped]

theorem braced?_stopsAtDot (before : List Char) : StopsAtDot braced? before := by
  by_cases closed : '\x7d' ∈ before
  · obtain ⟨digits, left, rfl, inside⟩ := List.eq_append_cons_of_mem closed
    have read : ∀ after, braced? (digits ++ '\x7d' :: left ++ '.' :: after) =
        (bracedCode? digits).map fun n => (pieceOf n, left ++ '.' :: after) := by
      intro after
      rw [List.append_assoc, List.cons_append, braced?_closed inside]
    cases code : bracedCode? digits with
    | none => exact Or.inl fun after => by rw [read, code, Option.map_none]
    | some n =>
        refine Or.inr ⟨pieceOf n, left, ?_, fun after => by rw [read, code, Option.map_some]⟩
        simp only [List.length_append, List.length_cons]
        omega
  · -- The dot would stand among the digits, wherever the brace is closed.
    refine Or.inl fun after => ?_
    by_cases later : '\x7d' ∈ after
    · obtain ⟨digits, rest, rfl, inside⟩ := List.eq_append_cons_of_mem later
      have whole : before ++ '.' :: (digits ++ '\x7d' :: rest) =
          (before ++ '.' :: digits) ++ '\x7d' :: rest := by simp
      rw [whole, braced?_closed (by simp [closed, inside]), bracedCode?,
        hexValue?_of_dot_mem (by simp), Option.filter_none, ite_self, Option.map_none]
    · exact braced?_open (by simp [closed, later])

/-- Four digits are a piece by themselves unless they and the next four make a pair. -/
theorem quad?_alone {cs rest : List Char} {first : Nat} (read : Json.unit? cs = some (first, rest))
    (single : ∀ more second after, rest = '\\' :: 'u' :: more →
      Json.unit? more = some (second, after) →
        (0xD800 ≤ first && first ≤ 0xDBFF) = true → (0xDC00 ≤ second && second ≤ 0xDFFF) = false) :
    quad? cs = some (pieceOf first, rest) := by
  simp only [quad?, read, bind, Option.bind_some]
  split
  · rename_i high
    split
    · split
      · rename_i more _ second after read'
        rw [single more second after rfl read' high]
        rfl
      · rfl
    · rfl
  · rfl

theorem quad?_stopsAtDot (before : List Char) : StopsAtDot quad? before := by
  rcases unit?_stopsAtDot before with refused | ⟨first, left, shorter, read⟩
  · exact Or.inl fun after => by simp [quad?, refused]
  by_cases pair : ∃ more, left = '\\' :: 'u' :: more
  · obtain ⟨more, rfl⟩ := pair
    rcases unit?_stopsAtDot more with refused | ⟨second, left', shorter', read'⟩
    · refine Or.inr ⟨pieceOf first, _, shorter, fun after => quad?_alone (read after) ?_⟩
      rintro _ second rest ⟨⟩ found
      cases (refused after).symm.trans found
    · by_cases both : (0xD800 ≤ first && first ≤ 0xDBFF) = true ∧
          (0xDC00 ≤ second && second ≤ 0xDFFF) = true
      · have fits : left'.length ≤ before.length := by
          simp only [List.length_cons] at shorter
          omega
        refine Or.inr ⟨.whole (Char.ofNat
          (0x10000 + (first - 0xD800) * 0x400 + (second - 0xDC00))), left', fits, fun after => ?_⟩
        simp only [quad?, read, bind, Option.bind_some, both.1, List.cons_append, read', both.2]
        rfl
      · refine Or.inr ⟨pieceOf first, _, shorter, fun after => quad?_alone (read after) ?_⟩
        rintro _ other rest ⟨⟩ found high
        cases (read' after).symm.trans found
        exact Bool.eq_false_iff.2 fun low => both ⟨high, low⟩
  · refine Or.inr ⟨pieceOf first, left, shorter, fun after => quad?_alone (read after) ?_⟩
    intro more second rest starts
    match left with
    | [] => cases starts
    | [_] => cases starts
    | _ :: _ :: left =>
        cases starts
        exact absurd ⟨_, rfl⟩ pair

/-- An escape that does not depend on more than the first character and the one after it. -/
theorem escape?_other {c : Char} {rest : List Char}
    (letter : c ∉ ['b', 'f', 'n', 'r', 't', 'v', 'x', 'u'])
    (lineEnd : c = '\r' → rest.head? ≠ some '\n') :
    escape? true (c :: rest) =
      if isLineEnd c then some ([], rest)
      else if c.isDigit then
        if c == '0' && !rest.head?.any Char.isDigit then some ([pieceOf 0], rest) else none
      else some ([.whole c], rest) := by
  unfold escape?
  split
  · rename_i empty
    cases empty
  iterate 8
    · rename_i same
      cases same
      exact absurd (by decide) letter
  · rename_i same
    cases same
    exact absurd rfl (lineEnd rfl)
  · rename_i same
    cases same
    cases rest <;> rfl

theorem escape?_hex_stopsAtDot (before : List Char) :
    StopsAtDot (escape? true) ('x' :: before) := by
  match before with
  | a :: b :: left =>
      cases value : Number.hexValue? [a, b] with
      | none => exact Or.inl fun after => by simp [escape?, value]
      | some n =>
          refine Or.inr ⟨[pieceOf n], left, ?_, fun after => by simp [escape?, value]⟩
          simp only [List.length_cons]
          omega
  | [a] =>
      have refused : Number.hexValue? [a, '.'] = none := hexValue?_of_dot_mem (by simp)
      exact Or.inl fun after => by simp [escape?, refused]
  | [] =>
      refine Or.inl fun after => ?_
      cases after with
      | nil => rfl
      | cons b after =>
          have refused : Number.hexValue? ['.', b] = none := hexValue?_of_dot_mem (by simp)
          simp [escape?, refused]

theorem escape?_code_stopsAtDot (before : List Char) :
    StopsAtDot (escape? true) ('u' :: before) := by
  by_cases brace : ∃ more, before = '\x7b' :: more
  · obtain ⟨more, rfl⟩ := brace
    refine ((braced?_stopsAtDot more).map fun piece => [piece]).of_eq ?_ fun after => rfl
    simp only [List.length_cons]
    omega
  · refine ((quad?_stopsAtDot before).map fun piece => [piece]).of_eq (Nat.le_succ _) ?_
    intro after
    simp only [List.cons_append, escape?]
    split
    · rename_i rest starts
      cases before with
      | nil => cases starts
      | cons d more =>
          cases starts
          exact absurd ⟨more, rfl⟩ brace
    · rfl

/-- An escape never reaches over a dot, except one of the dot itself. -/
theorem escape?_stopsAtDot (c : Char) (before : List Char) :
    StopsAtDot (escape? true) (c :: before) := by
  have shorter : before.length ≤ (c :: before).length := Nat.le_succ _
  by_cases letter : c ∈ ['b', 'f', 'n', 'r', 't', 'v', 'x', 'u']
  · simp only [List.mem_cons, List.not_mem_nil, or_false] at letter
    rcases letter with rfl | rfl | rfl | rfl | rfl | rfl | rfl | rfl
    iterate 6 exact Or.inr ⟨_, before, shorter, fun after => rfl⟩
    · exact escape?_hex_stopsAtDot before
    · exact escape?_code_stopsAtDot before
  by_cases pair : c = '\r' ∧ before.head? = some '\n'
  · obtain ⟨rfl, starts⟩ := pair
    obtain ⟨left, rfl⟩ := List.head?_eq_some_iff.1 starts
    refine Or.inr ⟨[], left, ?_, fun after => rfl⟩
    simp only [List.length_cons]
    omega
  · -- The dot is no digit and no line feed, so it cannot be the second character of the escape.
    have read : ∀ after, escape? true (c :: before ++ '.' :: after) =
        if isLineEnd c then some ([], before ++ '.' :: after)
        else if c.isDigit then
          if c == '0' && !before.head?.any Char.isDigit
          then some ([pieceOf 0], before ++ '.' :: after) else none
        else some ([.whole c], before ++ '.' :: after) := by
      intro after
      cases before with
      | nil => exact escape?_other letter fun _ h => by cases h
      | cons d before => exact escape?_other letter fun same h => pair ⟨same, h⟩
    by_cases line : isLineEnd c = true
    · exact Or.inr ⟨[], before, shorter, fun after => by rw [read, if_pos line]⟩
    by_cases digit : c.isDigit = true
    · by_cases zero : (c == '0' && !before.head?.any Char.isDigit) = true
      · refine Or.inr ⟨[pieceOf 0], before, shorter, fun after => ?_⟩
        rw [read, if_neg line, if_pos digit, if_pos zero]
      · exact Or.inl fun after => by rw [read, if_neg line, if_pos digit, if_neg zero]
    · refine Or.inr ⟨[.whole c], before, shorter, fun after => ?_⟩
      rw [read, if_neg line, if_neg digit]

/-- Cooking a text that has a dot is cooking what stands before the dot and what stands after it. -/
theorem read_dot (before : List Char) :
    (∀ after, read (before ++ '.' :: after) = none) ∨
      ∃ pieces, ∀ after, read (before ++ '.' :: after) =
        (read after).map fun others => pieces ++ .whole '.' :: others := by
  -- The recursion goes on with what an escape leaves over before the dot.
  match before with
  | [] => exact Or.inr ⟨[], fun after => read_cons (by decide) after⟩
  | c :: before =>
      by_cases plain : c = '\\'
      · subst plain
        match before with
        | [] =>
            refine Or.inr ⟨[], fun after => ?_⟩
            rw [List.singleton_append, read_escape]
            rfl
        | d :: before =>
            rcases escape?_stopsAtDot d before with refused | ⟨first, left, shorter, escaped⟩
            · refine Or.inl fun after => ?_
              rw [List.cons_append, read_escape, refused, Option.bind_none]
            · have step : ∀ after, read ('\\' :: d :: before ++ '.' :: after) =
                  (read (left ++ '.' :: after)).map (first ++ ·) := by
                intro after
                rw [List.cons_append, read_escape, escaped, Option.bind_some]
              rcases read_dot left with refused | ⟨pieces, cooked⟩
              · exact Or.inl fun after => by rw [step, refused, Option.map_none]
              · refine Or.inr ⟨first ++ pieces, fun after => ?_⟩
                rw [step, cooked, Option.map_map]
                congr 1
                funext others
                simp
      · rcases read_dot before with refused | ⟨pieces, cooked⟩
        · refine Or.inl fun after => ?_
          rw [List.cons_append, read_cons plain, refused, Option.map_none]
        · refine Or.inr ⟨.whole c :: pieces, fun after => ?_⟩
          rw [List.cons_append, read_cons plain, cooked, Option.map_map]
          rfl
termination_by before.length
decreasing_by
  · exact Nat.lt_succ_of_le shorter
  · exact Nat.lt_succ_self _

/-! ## Spelling -/

/-- The characters of a piece, in a text that is encoded or not. -/
def Piece.spelled (lone : Bool) (piece : Piece) : List Char :=
  if lone then piece.encoded else piece.plain

/-- The characters that a stretch of a template stands for, in a text that is encoded or not. -/
def spelled? (lone : Bool) (cs : List Char) : Option (List Char) :=
  (read cs).map (·.flatMap (Piece.spelled lone))

theorem textOf_eq (pieces : List Piece) :
    textOf pieces = (String.ofList (pieces.flatMap (Piece.spelled (pieces.any Piece.isHalf))),
      pieces.any Piece.isHalf) := by
  unfold textOf
  split
  · rename_i lone
    rw [lone]
    rfl
  · rename_i lone
    rw [Bool.eq_false_iff.2 lone]
    rfl

theorem flatMap_spelled_whole {word : List Char} (plain : replacement ∉ word) (lone : Bool) :
    (word.map Piece.whole).flatMap (Piece.spelled lone) = word := by
  induction word with
  | nil => rfl
  | cons c word ih =>
      rw [List.mem_cons, not_or] at plain
      have whole : Piece.spelled lone (.whole c) = [c] := by
        cases lone with
        | false => rfl
        | true => simp [Piece.spelled, Piece.encoded, Ne.symm plain.1]
      rw [List.map_cons, List.flatMap_cons, whole, ih plain.2, List.singleton_append]

theorem any_isHalf_whole (word : List Char) : (word.map Piece.whole).any Piece.isHalf = false := by
  rw [List.any_map, List.any_eq_false]
  exact fun c _ h => by cases h

/-- A text without escapes stands for itself. -/
theorem resolve?_plain {cs : List Char} (plain : '\\' ∉ cs) :
    resolve? true cs = some (String.ofList cs, false) := by
  have cooked : read cs = some (cs.map .whole) := by
    have whole := read_append plain []
    rwa [List.append_nil, read_nil, Option.map_some, List.append_nil] at whole
  have spelled : (cs.map Piece.whole).flatMap Piece.plain = cs := by
    rw [List.flatMap_map]
    exact List.flatMap_singleton' cs
  rw [resolve?_eq, cooked, Option.map_some, textOf, any_isHalf_whole, spelled]
  rfl

/-! ## Words that start with a dot -/

/-- A dot and characters of which none is a dot, a backslash or the replacement character. -/
def isDotWord : List Char → Bool
  | '.' :: word => word.all fun c => c != '.' && c != '\\' && c != replacement
  | _ => false

theorem exists_of_isDotWord {word : List Char} (h : isDotWord word = true) :
    ∃ letters, word = '.' :: letters ∧ '.' ∉ letters ∧ '\\' ∉ letters ∧ replacement ∉ letters := by
  unfold isDotWord at h
  split at h
  · rename_i letters
    rw [List.all_eq_true] at h
    simp only [Bool.and_eq_true, bne_iff_ne] at h
    refine ⟨letters, rfl, fun mem => ?_, fun mem => ?_, fun mem => ?_⟩
    · exact (h _ mem).1.1 rfl
    · exact (h _ mem).1.2 rfl
    · exact (h _ mem).2 rfl
  · cases h

theorem read_around (before : List Char) :
    (∀ word after, isDotWord word = true → read (before ++ word ++ after) = none) ∨
      ∃ first, ∀ word after, isDotWord word = true → read (before ++ word ++ after) =
        (read after).map fun others => first ++ word.map .whole ++ others := by
  have whole : ∀ letters after,
      before ++ '.' :: letters ++ after = before ++ '.' :: (letters ++ after) := by simp
  rcases read_dot before with refused | ⟨first, split⟩
  · refine Or.inl fun word after dotted => ?_
    obtain ⟨letters, rfl, -⟩ := exists_of_isDotWord dotted
    rw [whole, refused]
  · refine Or.inr ⟨first, fun word after dotted => ?_⟩
    obtain ⟨letters, rfl, -, plain, -⟩ := exists_of_isDotWord dotted
    rw [whole, split, read_append plain, Option.map_map]
    congr 1
    funext others
    simp

/-- A word that starts with a dot can be exchanged for another one before or after a text is cooked:
what stands before and after the word is cooked as it was. -/
theorem resolve?_around (before after : List Char) :
    (∀ word, isDotWord word = true → resolve? true (before ++ word ++ after) = none) ∨
      ∃ cooked rest lone, spelled? lone after = some rest ∧ ∀ word, isDotWord word = true →
        resolve? true (before ++ word ++ after) =
          some (String.ofList (cooked ++ word ++ rest), lone) := by
  simp only [resolve?_eq, spelled?]
  rcases read_around before with refused | ⟨first, split⟩
  · exact Or.inl fun word dotted => by rw [refused word after dotted, Option.map_none]
  cases later : read after with
  | none =>
      refine Or.inl fun word dotted => ?_
      rw [split word after dotted, later, Option.map_none, Option.map_none]
  | some others =>
      let lone := first.any Piece.isHalf || others.any Piece.isHalf
      refine Or.inr ⟨first.flatMap (Piece.spelled lone), others.flatMap (Piece.spelled lone), lone,
        rfl, fun word dotted => ?_⟩
      obtain ⟨letters, rfl, -, -, known⟩ := exists_of_isDotWord dotted
      have plain : replacement ∉ '.' :: letters := by
        rw [List.mem_cons, not_or]
        exact ⟨by decide, known⟩
      have halves : (first ++ ('.' :: letters).map Piece.whole ++ others).any Piece.isHalf =
          lone := by
        rw [List.any_append, List.any_append, any_isHalf_whole, Bool.or_false]
      rw [split _ after dotted, later, Option.map_some, Option.map_some, textOf_eq, halves,
        List.flatMap_append, List.flatMap_append, flatMap_spelled_whole plain]

end ImageFallback.Cooking
