import GhostEdit.Glob.Basic
import Mathlib.Data.List.TakeWhile

/-!
# Globs put together

A glob is read from the left, and a bracket reaches as far as the bracket that closes it. Text
without a closing bracket can therefore be put behind a glob without changing what the glob means:
what was a set stays the set it was, and a bracket that nothing closes stays a character. Behind a
star at the end of a glob, any text may follow.

What tokens spell falls into what their first part and their second part spell, and text without
any of the marks of a glob spells itself alone.

## Main definitions

* `Glob.closeSet?`: the inside of a set from where a closing bracket ends it
* `Glob.Plain`: text without marks

## Main results

* `Glob.parse_append`: the tokens of a glob with text behind it that closes no bracket
* `Glob.spells_append_star`, `Glob.fits_append`: what fits a glob that ends with a star still does
  with more text behind it
* `Glob.spells_append`, `Glob.fits_slash_star`: a match in two parts
* `Glob.fits_plain`, `Glob.fits_between_stars`: text that stands for itself
-/

namespace GhostEdit

namespace Glob

/-! ## Sets -/

/-- The inside of a set that starts with `head`, and the text behind the bracket that closes it. -/
def closeSet? (head t : Text) : Option (Text × Text) :=
  match t.dropWhile (· ≠ ']') with
  | ']' :: after => some (head ++ t.takeWhile (· ≠ ']'), after)
  | _ => none

theorem closeSet?_of_notMem {t : Text} (h : ']' ∉ t) (head : Text) : closeSet? head t = none := by
  have hrun : ∀ c ∈ t, decide (c ≠ ']') = true :=
    fun c hc => decide_eq_true (ne_of_mem_of_not_mem hc h)
  rw [closeSet?, List.dropWhile_eq_nil_iff.mpr hrun]

theorem closeSet?_closed {t : Text} (h : ']' ∉ t) (head after : Text) :
    closeSet? head (t ++ ']' :: after) = some (head ++ t, after) := by
  have hrun : ∀ c ∈ t, decide (c ≠ ']') = true :=
    fun c hc => decide_eq_true (ne_of_mem_of_not_mem hc h)
  have hstop : ∀ c ∈ (']' :: after).head?, decide (c ≠ ']') = false := by simp
  rw [closeSet?, Text.dropWhile_run hrun hstop, Text.takeWhile_run hrun hstop]
  rfl

/-- Where a set ends does not depend on the text behind it. -/
theorem closeSet?_append {q : Text} (h : ']' ∉ q) (head t : Text) :
    closeSet? head (t ++ q)
      = (closeSet? head t).map fun (inside, after) => (inside, after ++ q) := by
  by_cases hmem : ']' ∈ t
  · obtain ⟨before, after, rfl, hbefore⟩ := List.eq_append_cons_of_mem hmem
    rw [List.append_assoc, List.cons_append, closeSet?_closed hbefore, closeSet?_closed hbefore]
    rfl
  · rw [closeSet?_of_notMem hmem, closeSet?_of_notMem (by simp [hmem, h])]
    rfl

theorem length_closeSet? {head t inside after : Text}
    (h : closeSet? head t = some (inside, after)) : after.length ≤ t.length := by
  by_cases hmem : ']' ∈ t
  · obtain ⟨before, rest, rfl, hbefore⟩ := List.eq_append_cons_of_mem hmem
    rw [closeSet?_closed hbefore] at h
    cases h
    simp only [List.length_append, List.length_cons]
    omega
  · rw [closeSet?_of_notMem hmem] at h
    cases h

/-- The inside of a set that starts with `mark`, where a closing bracket in first place is a
member. -/
def bodyFrom? (mark t : Text) : Option (Text × Text) :=
  let (head, rest) := match t with
    | ']' :: r => ([']'], r)
    | r => ([], r)
  closeSet? (mark ++ head) rest

theorem bodyFrom?_of_ne {c : Char} (h : c ≠ ']') (mark rest : Text) :
    bodyFrom? mark (c :: rest) = closeSet? mark (c :: rest) := by
  unfold bodyFrom?
  split
  next head body heq =>
  split at heq
  · next r hbracket => exact absurd (List.cons.inj hbracket).1 h
  · cases heq
    rw [List.append_nil]

theorem bodyFrom?_append {q : Text} (h : ']' ∉ q) (mark t : Text) :
    bodyFrom? mark (t ++ q)
      = (bodyFrom? mark t).map fun (inside, after) => (inside, after ++ q) := by
  cases t with
  | nil =>
    cases q with
    | nil => rfl
    | cons c q =>
      rw [List.nil_append, bodyFrom?_of_ne (List.ne_of_not_mem_cons h).symm,
        closeSet?_of_notMem h]
      rfl
  | cons c rest =>
    by_cases hc : c = ']'
    · rw [hc]
      exact closeSet?_append h (mark ++ [']']) rest
    · rw [List.cons_append, bodyFrom?_of_ne hc, bodyFrom?_of_ne hc, ← List.cons_append,
        closeSet?_append h]

theorem length_bodyFrom? {mark t inside after : Text}
    (h : bodyFrom? mark t = some (inside, after)) : after.length ≤ t.length := by
  cases t with
  | nil =>
    change closeSet? mark [] = _ at h
    exact length_closeSet? h
  | cons c rest =>
    by_cases hc : c = ']'
    · rw [hc] at h
      exact Nat.le_succ_of_le (length_closeSet? h)
    · rw [bodyFrom?_of_ne hc] at h
      exact length_closeSet? h

theorem setBody?_mark (rest : Text) : setBody? ('!' :: rest) = bodyFrom? ['!'] rest := rfl

theorem setBody?_of_ne {c : Char} (h : c ≠ '!') (rest : Text) :
    setBody? (c :: rest) = bodyFrom? [] (c :: rest) := by
  unfold setBody?
  split
  next mark body heq =>
  split at heq
  · next r hmark => exact absurd (List.cons.inj hmark).1 h
  · cases heq
    rfl

/-- **A set is not changed by text behind it** that holds no closing bracket. -/
theorem setBody?_append {q : Text} (h : ']' ∉ q) (t : Text) :
    setBody? (t ++ q) = (setBody? t).map fun (inside, after) => (inside, after ++ q) := by
  cases t with
  | nil =>
    cases q with
    | nil => rfl
    | cons c q =>
      by_cases hc : c = '!'
      · rw [List.nil_append, hc, setBody?_mark, ← List.nil_append q,
          bodyFrom?_append fun hmem => h (List.mem_cons_of_mem c hmem)]
        rfl
      · rw [List.nil_append, setBody?_of_ne hc, ← List.nil_append (c :: q), bodyFrom?_append h]
        rfl
  | cons c rest =>
    by_cases hc : c = '!'
    · rw [hc, List.cons_append, setBody?_mark, setBody?_mark, bodyFrom?_append h]
    · rw [List.cons_append, setBody?_of_ne hc, setBody?_of_ne hc, ← List.cons_append,
        bodyFrom?_append h]

theorem length_setBody? {t inside after : Text} (h : setBody? t = some (inside, after)) :
    after.length ≤ t.length := by
  cases t with
  | nil => cases h
  | cons c rest =>
    by_cases hc : c = '!'
    · rw [hc, setBody?_mark] at h
      exact Nat.le_succ_of_le (length_bodyFrom? h)
    · rw [setBody?_of_ne hc] at h
      exact length_bodyFrom? h

/-! ## Tokens -/

/-- The first token of a glob that starts with `c`, and what is left of the glob. -/
def firstToken (c : Char) (rest : Text) : Token × Text :=
  if c = '*' then (.star, rest)
  else if c = '?' then (.any, rest)
  else if c = '[' then
    match setBody? rest with
    | some (inside, after) => (setToken inside, after)
    | none => (.literal c, rest)
  else (.literal c, rest)

/-- Reading a glob is reading its first token and then what is left. -/
theorem parseWithin_cons (fuel : Nat) (c : Char) (rest : Text) :
    parseWithin (fuel + 1) (c :: rest)
      = (firstToken c rest).1 :: parseWithin fuel (firstToken c rest).2 := by
  by_cases hstar : c = '*'
  · rw [hstar]
    rfl
  by_cases hany : c = '?'
  · rw [hany]
    rfl
  by_cases hset : c = '['
  · rw [hset]
    cases hbody : setBody? rest <;> simp [parseWithin, firstToken, hbody]
  · simp [parseWithin, firstToken, hstar, hany, hset]

theorem length_firstToken (c : Char) (rest : Text) :
    (firstToken c rest).2.length ≤ rest.length := by
  unfold firstToken
  split
  · exact Nat.le_refl _
  split
  · exact Nat.le_refl _
  split
  · split
    · next inside after hset => exact length_setBody? hset
    · exact Nat.le_refl _
  · exact Nat.le_refl _

theorem firstToken_append {q : Text} (h : ']' ∉ q) (c : Char) (rest : Text) :
    firstToken c (rest ++ q) = ((firstToken c rest).1, (firstToken c rest).2 ++ q) := by
  unfold firstToken
  split
  · rfl
  split
  · rfl
  split
  · rw [setBody?_append h]
    cases setBody? rest <;> rfl
  · rfl

/-- The bound on the number of tokens makes no difference once it is the length of the glob. -/
theorem parseWithin_congr {fuel more : Nat} {t : Text} (h : t.length ≤ fuel)
    (h' : t.length ≤ more) : parseWithin fuel t = parseWithin more t := by
  induction fuel generalizing more t with
  | zero =>
    rw [List.eq_nil_of_length_eq_zero (Nat.le_zero.mp h)]
    cases more <;> rfl
  | succ fuel ih =>
    cases t with
    | nil => cases more <;> rfl
    | cons c rest =>
      cases more with
      | zero => cases h'
      | succ more =>
        have hle := length_firstToken c rest
        rw [parseWithin_cons, parseWithin_cons,
          ih (Nat.le_trans hle (Nat.le_of_succ_le_succ h))
            (Nat.le_trans hle (Nat.le_of_succ_le_succ h'))]

theorem parse_cons (c : Char) (rest : Text) :
    parse (c :: rest) = (firstToken c rest).1 :: parse (firstToken c rest).2 := by
  rw [parse, List.length_cons, parseWithin_cons, parse,
    parseWithin_congr (length_firstToken c rest) (Nat.le_refl _)]

/-- **Text behind a glob** that closes no bracket adds its own tokens. The induction is on the
length of the glob, as a set takes several characters at once. -/
theorem parse_append {q : Text} (h : ']' ∉ q) (p : Text) : parse (p ++ q) = parse p ++ parse q := by
  induction hlength : p.length using Nat.strongRecOn generalizing p with
  | _ n ih =>
    cases p with
    | nil => rfl
    | cons c rest =>
      have hlt : (firstToken c rest).2.length < n := by
        have hle := length_firstToken c rest
        rw [List.length_cons] at hlength
        omega
      rw [List.cons_append, parse_cons, firstToken_append h, ih _ hlt _ rfl, parse_cons c rest,
        List.cons_append]

/-! ## Matches in two parts -/

/-- Any token but a star takes one character. -/
theorem spells_cons_cons {token : Token} (h : token ≠ .star) {tokens : List Token} {c : Char}
    {t : Text} :
    spells (token :: tokens) (c :: t) = true ↔
      token.accepts c = true ∧ spells tokens t = true := by
  rw [spells, Bool.and_eq_true]
  exact h

theorem spells_cons_nil {token : Token} (h : token ≠ .star) (tokens : List Token) :
    spells (token :: tokens) [] = false := by
  cases token with
  | star => exact absurd rfl h
  | any | literal d | set negated ranges => rfl

/-- What a star takes is any start of the text. -/
theorem spells_star_cons {tokens : List Token} {t : Text} :
    spells (.star :: tokens) t = true ↔ ∃ u v, t = u ++ v ∧ spells tokens v = true := by
  rw [spells, List.any_eq_true]
  constructor
  · rintro ⟨v, hv, hspells⟩
    obtain ⟨u, rfl⟩ := suffix_of_mem_suffixes hv
    exact ⟨u, v, rfl, hspells⟩
  · rintro ⟨u, v, rfl, hspells⟩
    exact ⟨v, mem_suffixes_of_suffix (List.suffix_append u v), hspells⟩

/-- **A match in two parts**: the first tokens spell the start of the text, and the others what is
left of it. -/
theorem spells_append {front back : List Token} {t : Text} :
    spells (front ++ back) t = true ↔
      ∃ u v, t = u ++ v ∧ spells front u = true ∧ spells back v = true := by
  induction front generalizing t with
  | nil =>
    constructor
    · exact fun h => ⟨[], t, rfl, rfl, h⟩
    · rintro ⟨u, v, rfl, hu, hv⟩
      rw [List.isEmpty_iff.mp hu]
      exact hv
  | cons token front ih =>
    by_cases hstar : token = .star
    · rw [hstar, List.cons_append, spells_star_cons]
      simp only [ih, spells_star_cons]
      constructor
      · rintro ⟨u, _, rfl, v, w, rfl, hv, hw⟩
        exact ⟨u ++ v, w, (List.append_assoc u v w).symm, ⟨u, v, rfl, hv⟩, hw⟩
      · rintro ⟨_, w, rfl, ⟨u, v, rfl, hv⟩, hw⟩
        exact ⟨u, v ++ w, List.append_assoc u v w, v, w, rfl, hv, hw⟩
    · have hnil : ∀ tokens, ¬ spells (token :: tokens) [] = true := by
        simp [spells_cons_nil hstar]
      cases t with
      | nil =>
        refine ⟨fun h => absurd h (hnil _), ?_⟩
        rintro ⟨u, v, hsplit, hu, -⟩
        rw [(List.append_eq_nil_iff.mp hsplit.symm).1] at hu
        exact absurd hu (hnil _)
      | cons c t =>
        rw [List.cons_append, spells_cons_cons hstar, ih]
        constructor
        · rintro ⟨haccepts, u, v, rfl, hu, hv⟩
          exact ⟨c :: u, v, rfl, (spells_cons_cons hstar).mpr ⟨haccepts, hu⟩, hv⟩
        · rintro ⟨u, v, hsplit, hu, hv⟩
          cases u with
          | nil => exact absurd hu (hnil _)
          | cons d u =>
            obtain ⟨rfl, rfl⟩ := List.cons.inj hsplit
            obtain ⟨haccepts, hspells⟩ := (spells_cons_cons hstar).mp hu
            exact ⟨haccepts, u, v, rfl, hspells, hv⟩

/-! ## A star at the end -/

theorem spells_star (t : Text) : spells [.star] t = true :=
  spells_star_cons.mpr ⟨t, [], (List.append_nil t).symm, rfl⟩

/-- More text may follow where the last token is a star. -/
theorem spells_append_star (tokens : List Token) {t : Text}
    (h : spells (tokens ++ [.star]) t = true) (more : Text) :
    spells (tokens ++ [.star]) (t ++ more) = true := by
  obtain ⟨u, v, rfl, hspells, -⟩ := spells_append.mp h
  exact spells_append.mpr ⟨u, v ++ more, List.append_assoc u v more, hspells, spells_star _⟩

/-- **A glob that ends with a star** fits every text that goes on behind one that it fits. -/
theorem fits_append {p t : Text} (h : fits (p ++ ['*']) t = true) (more : Text) :
    fits (p ++ ['*']) (t ++ more) = true := by
  rw [fits_eq_spells, parse_append (by decide)] at h ⊢
  exact spells_append_star _ h more

theorem parse_star_cons (rest : Text) : parse ('*' :: rest) = .star :: parse rest :=
  parse_cons '*' rest

/-- A slash and a star behind a glob let it fit what stands before one of the slashes. -/
theorem fits_slash_star {p t : Text} :
    fits (p ++ ['/', '*']) t = true ↔ ∃ u v, t = u ++ '/' :: v ∧ fits p u = true := by
  simp only [fits_eq_spells]
  rw [parse_append (by decide), spells_append]
  constructor
  · rintro ⟨u, v, rfl, hu, hv⟩
    cases v with
    | nil => cases hv
    | cons c v =>
      obtain ⟨hslash, -⟩ := Bool.and_eq_true_iff.mp hv
      rw [of_decide_eq_true hslash]
      exact ⟨u, v, rfl, hu⟩
  · rintro ⟨u, v, rfl, hu⟩
    exact ⟨u, '/' :: v, rfl, hu, Bool.and_eq_true_iff.mpr ⟨rfl, spells_star v⟩⟩

/-! ## Text that stands for itself -/

/-- Text without any of the marks of a glob. -/
def Plain (t : Text) : Prop := ∀ c ∈ t, c ≠ '*' ∧ c ≠ '?' ∧ c ≠ '['

instance (t : Text) : Decidable (Plain t) := List.decidableBAll _ t

theorem parse_plain_append {t : Text} (h : Plain t) (rest : Text) :
    parse (t ++ rest) = t.map Token.literal ++ parse rest := by
  induction t with
  | nil => rfl
  | cons c t ih =>
    obtain ⟨⟨hstar, hany, hset⟩, htail⟩ := List.forall_mem_cons.mp h
    rw [List.cons_append, parse_cons, firstToken, if_neg hstar, if_neg hany, if_neg hset, ih htail,
      List.map_cons, List.cons_append]

theorem spells_literals {t u : Text} : spells (t.map Token.literal) u = true ↔ u = t := by
  induction t generalizing u with
  | nil => exact List.isEmpty_iff
  | cons c t ih =>
    cases u with
    | nil => exact ⟨nofun, nofun⟩
    | cons d u =>
      rw [List.map_cons, spells_cons_cons (nofun : Token.literal c ≠ .star), ih, Token.accepts,
        decide_eq_true_eq, List.cons.injEq]

/-- **Plain text fits itself** and nothing else. -/
theorem fits_plain {t u : Text} (h : Plain t) : fits t u = true ↔ u = t := by
  have hparse : parse t = t.map Token.literal := by
    have happend := parse_plain_append h []
    rwa [List.append_nil, show parse [] = [] from rfl, List.append_nil] at happend
  rw [fits_eq_spells, hparse, spells_literals]

/-- **Plain text between stars** fits every text that it occurs in. A second star beside the first
adds nothing. -/
theorem fits_between_stars {mid t : Text} (h : Plain mid) :
    fits ('*' :: '*' :: (mid ++ ['*', '*'])) t = true ↔ mid <:+: t := by
  have hparse : parse ('*' :: '*' :: (mid ++ ['*', '*']))
      = .star :: .star :: (mid.map Token.literal ++ [.star, .star]) := by
    rw [parse_star_cons, parse_star_cons, parse_plain_append h]
    rfl
  simp only [fits_eq_spells, hparse, spells_star_cons, spells_append, spells_literals]
  constructor
  · rintro ⟨u, _, rfl, v, _, rfl, _, w, rfl, rfl, -⟩
    exact ⟨u ++ v, w, by simp only [List.append_assoc]⟩
  · rintro ⟨u, w, rfl⟩
    exact ⟨u, mid ++ w, List.append_assoc u mid w, [], mid ++ w, rfl, mid, w, rfl, rfl, [], w, rfl,
      w, [], (List.append_nil w).symm, rfl⟩

end Glob

end GhostEdit
