import Mathlib.Algebra.Ring.Nat
import Mathlib.Data.List.Basic

/-!
# Domain names in presentation format

The master-file syntax of domain names: labels separated by dots, `\DDD` for the
byte with that decimal value and `\X` for any other byte taken literally.  A
wire-format name is its list of labels, without the empty root label.

Reading goes through tokens, so that an escaped dot and a separating one stay
apart.  `render` is the opposite of careful: it joins the labels with dots and
escapes nothing.
-/

namespace UnboundWasm.Lib.DomainName

/-- The characters with a meaning in the syntax. -/
def dot : UInt8 := 0x2E
def backslash : UInt8 := 0x5C

def isDigit (byte : UInt8) : Bool := 0x30 ≤ byte && byte ≤ 0x39

/-- A separating dot, or one byte of a label. -/
inductive Token where
  | separator
  | octet (byte : UInt8)
  deriving DecidableEq, Repr

/-- A character outside an escape. -/
def plain (byte : UInt8) : Token := if byte = dot then .separator else .octet byte

/-- The value of three decimal digits. -/
def decimal (d1 d2 d3 : UInt8) : Nat :=
  (d1.toNat - 48) * 100 + (d2.toNat - 48) * 10 + (d3.toNat - 48)

/-- The tokens of a name, or `none` if an escape is malformed. -/
def tokens : List UInt8 → Option (List Token)
  | [] => some []
  | first :: rest =>
      if first = backslash then
        match rest with
        | [] => none
        | d1 :: rest =>
            if isDigit d1 then
              match rest with
              | d2 :: d3 :: rest =>
                  if isDigit d2 && isDigit d3 && decimal d1 d2 d3 ≤ 255 then
                    (tokens rest).map (.octet (.ofNat (decimal d1 d2 d3)) :: ·)
                  else
                    none
              | _ => none
            else
              (tokens rest).map (.octet d1 :: ·)
      else
        (tokens rest).map (plain first :: ·)

/-- Cut the tokens into labels; `label` is the one being read. A label may not
be empty, and the last one needs no separator after it. -/
def labels : List UInt8 → List Token → Option (List (List UInt8))
  | [], [] => some []
  | label, [] => some [label]
  | [], .separator :: _ => none
  | label, .separator :: rest => (labels [] rest).map (label :: ·)
  | label, .octet byte :: rest => labels (label ++ [byte]) rest

/-- Length limits of a wire-format name. -/
def fits (name : List (List UInt8)) : Bool :=
  name.all (fun label => label.length ≤ 63) &&
    (name.map fun label => label.length + 1).sum + 1 ≤ 255

/-- Read a name. A lone dot is the root. -/
def parse (text : List UInt8) : Option (List (List UInt8)) :=
  match tokens text with
  | none => none
  | some [.separator] => some []
  | some toks =>
      match labels [] toks with
      | none => none
      | some name => if fits name then some name else none

/-- The labels joined with dots, nothing escaped. -/
def render : List (List UInt8) → List UInt8
  | [] => [dot]
  | name => name.flatMap fun label => label ++ [dot]

/-- The name ends in a dot that is not part of an escape. -/
def absolute : List UInt8 → Bool
  | [] => false
  | [last] => last = dot
  | first :: second :: rest =>
      if first = backslash then absolute rest else absolute (second :: rest)

/-! ## Names without escapes -/

/-- The byte a token stands for when nothing is escaped. -/
def Token.byte : Token → UInt8
  | .separator => dot
  | .octet byte => byte

@[simp] theorem byte_plain (byte : UInt8) : (plain byte).byte = byte := by
  unfold plain
  split
  next same => exact same.symm
  next => rfl

theorem tokens_of_unescaped {text : List UInt8} (unescaped : backslash ∉ text) :
    tokens text = some (text.map plain) := by
  induction text with
  | nil => rfl
  | cons first rest ih =>
      rw [List.mem_cons, not_or] at unescaped
      have different : ¬ first = backslash := fun same => unescaped.1 same.symm
      unfold tokens
      simp only [different, if_false, ih unescaped.2, Option.map_some, List.map_cons]

/-- The labels joined with dots are the bytes of the tokens, up to a dot after
the last label. -/
theorem flatMap_labels {label : List UInt8} {toks : List Token} {name : List (List UInt8)}
    (cut : labels label toks = some name) :
    ∃ tail, (tail = [] ∨ tail = [dot]) ∧
      (label = [] ∧ toks = [] ∨ toks.getLast? = some .separator → tail = []) ∧
      (name.flatMap fun label => label ++ [dot]) = label ++ toks.map Token.byte ++ tail := by
  induction toks generalizing label name with
  | nil =>
      cases label with
      | nil =>
          simp only [labels, Option.some.injEq] at cut
          subst name
          exact ⟨[], .inl rfl, fun _ => rfl, rfl⟩
      | cons byte label =>
          simp only [labels, Option.some.injEq] at cut
          subst name
          exact ⟨[dot], .inr rfl, by simp, by simp⟩
  | cons token rest ih =>
      cases token with
      | octet byte =>
          have shifted : labels (label ++ [byte]) rest = some name := by
            cases label <;> simpa only [labels] using cut
          obtain ⟨tail, shape, closed, joined⟩ := ih shifted
          refine ⟨tail, shape, ?_, by simpa [Token.byte] using joined⟩
          rintro (⟨-, impossible⟩ | last)
          · cases impossible
          · cases rest with
            | nil => simp at last
            | cons next rest => exact closed (.inr (by simpa using last))
      | separator =>
          cases label with
          | nil => simp [labels] at cut
          | cons byte label =>
              simp only [labels, Option.map_eq_some_iff] at cut
              obtain ⟨others, cut, rfl⟩ := cut
              obtain ⟨tail, shape, closed, joined⟩ := ih cut
              refine ⟨tail, shape, ?_, by simp [joined, Token.byte]⟩
              rintro (⟨impossible, -⟩ | last)
              · cases impossible
              · cases rest with
                | nil => exact closed (.inl ⟨rfl, rfl⟩)
                | cons next rest => exact closed (.inr (by simpa using last))

theorem tokens_ne_nil {first : UInt8} {rest : List UInt8} : tokens (first :: rest) ≠ some [] := by
  unfold tokens
  split
  · split
    · simp
    · split
      · split
        · split <;> simp
        · simp
      · simp
  · simp

/-- An accepted name renders to the bytes of its tokens, with a dot added if it
did not end in a separator. -/
theorem render_of_parse {text : List UInt8} (nonempty : text ≠ [])
    {name : List (List UInt8)} (parsed : parse text = some name) :
    ∃ toks tail, tokens text = some toks ∧ (tail = [] ∨ tail = [dot]) ∧
      (toks.getLast? = some .separator → tail = []) ∧
      render name = toks.map Token.byte ++ tail := by
  unfold parse at parsed
  split at parsed
  · cases parsed
  next tokenized =>
    cases parsed
    exact ⟨_, [], tokenized, .inl rfl, fun _ => rfl, rfl⟩
  next toks notRoot tokenized =>
    split at parsed
    · cases parsed
    next name' cut =>
      split at parsed
      next =>
        cases parsed
        obtain ⟨tail, shape, closed, joined⟩ := flatMap_labels cut
        refine ⟨toks, tail, tokenized, shape, fun last => closed (.inr last), ?_⟩
        cases name with
        | cons label others => simpa [render] using joined
        | nil =>
            have empty : toks = [] := by
              cases toks with
              | nil => rfl
              | cons token others => simp at joined
            obtain ⟨first, rest, rfl⟩ := List.exists_cons_of_ne_nil nonempty
            exact absurd (empty ▸ tokenized) tokens_ne_nil
      next => cases parsed

/-- A name without escapes that ends in a dot renders to itself. -/
theorem render_of_unescaped {text : List UInt8} (nonempty : text ≠ [])
    (unescaped : backslash ∉ text) (last : text.getLast? = some dot)
    {name : List (List UInt8)} (parsed : parse text = some name) : render name = text := by
  obtain ⟨toks, tail, tokenized, -, closed, rendered⟩ := render_of_parse nonempty parsed
  rw [tokens_of_unescaped unescaped, Option.some.injEq] at tokenized
  subst toks
  have ended : (text.map plain).getLast? = some .separator := by
    rw [List.getLast?_map, last]
    rfl
  rw [rendered, closed ended, List.append_nil, List.map_map]
  have identity : Token.byte ∘ plain = id := by
    funext byte
    exact byte_plain byte
  rw [identity, List.map_id]

theorem absolute_of_unescaped {text : List UInt8} (unescaped : backslash ∉ text)
    (last : text.getLast? = some dot) : absolute text = true := by
  fun_induction absolute text with
  | case1 => simp at last
  | case2 byte => simpa using last
  | case3 second rest ih => simp at unescaped
  | case4 first second rest _ ih =>
      apply ih
      · exact fun member => unescaped (List.mem_cons_of_mem first member)
      · simpa using last

/-! ## Escapes do not survive rendering -/

/-- The characters escapes are made of. -/
def isEscape (byte : UInt8) : Bool := isDigit byte || byte = backslash

/-- Reading an escape loses at least one of the characters it is made of. -/
theorem countP_tokens {text : List UInt8} {toks : List Token}
    (tokenized : tokens text = some toks) :
    (toks.map Token.byte).countP isEscape + (if backslash ∈ text then 1 else 0) ≤
      text.countP isEscape := by
  have special : isEscape backslash = true := by decide
  fun_induction tokens text generalizing toks with
  | case1 =>
      cases tokenized
      simp
  | case2 => cases tokenized
  | case3 d1 digit d2 d3 rest valid ih =>
      rw [Option.map_eq_some_iff] at tokenized
      obtain ⟨others, tokenized, rfl⟩ := tokenized
      have fewer := ih tokenized
      have digits : isEscape d1 = true := by simp [isEscape, digit]
      rw [if_pos (List.mem_cons_self ..)]
      simp only [List.map_cons, List.countP_cons, special, digits, if_true]
      split at fewer <;> split <;> omega
  | case4 => cases tokenized
  | case5 => cases tokenized
  | case6 d1 rest digit ih =>
      rw [Option.map_eq_some_iff] at tokenized
      obtain ⟨others, tokenized, rfl⟩ := tokenized
      have fewer := ih tokenized
      rw [if_pos (List.mem_cons_self ..)]
      simp only [List.map_cons, List.countP_cons, special, Token.byte, if_true]
      split at fewer <;> omega
  | case7 first rest different ih =>
      rw [Option.map_eq_some_iff] at tokenized
      obtain ⟨others, tokenized, rfl⟩ := tokenized
      have fewer := ih tokenized
      have same : backslash ∈ first :: rest ↔ backslash ∈ rest := by
        simp [Ne.symm different]
      simp only [List.map_cons, List.countP_cons, byte_plain, same]
      omega

/-- A name with an escape renders to something with fewer of them. -/
theorem countP_render_lt {text : List UInt8} (nonempty : text ≠ [])
    (escaped : backslash ∈ text) {name : List (List UInt8)} (parsed : parse text = some name) :
    (render name).countP isEscape < text.countP isEscape := by
  obtain ⟨toks, tail, tokenized, shape, -, rendered⟩ := render_of_parse nonempty parsed
  have fewer := countP_tokens tokenized
  rw [if_pos escaped] at fewer
  have dots : tail.countP isEscape = 0 := by
    rcases shape with rfl | rfl
    · rfl
    · decide
  rw [rendered, List.countP_append, dots]
  omega

end UnboundWasm.Lib.DomainName
