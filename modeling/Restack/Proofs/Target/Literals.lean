import Mathlib.Data.List.Count
import Restack.Target.Compose
import Restack.Target.Flutter

/-!
# Literals in generated code

A literal begins and ends with the same quote, a backslash in it takes the next character as it is,
and the first other quote ends it. The dialects put a backslash in front of each quote in a text but
not in front of a backslash, so that a literal says what it was written for exactly if there is no
backslash in the text.
-/

namespace Restack.Target

/-- The text of a literal behind the quote that begins it, if the first quote that no backslash
takes stands at the end. -/
def restOfLiteral? (quote : Char) : List Char → Option (List Char)
  | [] => none
  | ['\\'] => none
  | '\\' :: c :: rest => (restOfLiteral? quote rest).map (c :: ·)
  | c :: rest =>
    if c = quote then if rest.isEmpty then some [] else none
    else (restOfLiteral? quote rest).map (c :: ·)

/-- The text of some code that is one complete literal and nothing else. -/
def literalText? (quote : Char) (code : String) : Option String :=
  match code.toList with
  | c :: rest => if c = quote then (restOfLiteral? quote rest).map String.ofList else none
  | [] => none

/-- A text with a backslash in front of each quote. -/
def escaped (quote : Char) (s : List Char) : List Char :=
  s.flatMap fun c => if c == quote then ['\\', c] else [c]

section Reading

variable {quote : Char}

/-- Only the quote itself is escaped. -/
theorem escaped_cons (c : Char) (s : List Char) :
    escaped quote (c :: s) = (if c == quote then ['\\', c] else [c]) ++ escaped quote s :=
  List.flatMap_cons

/-- Each quote makes a text longer by one. -/
theorem length_escaped (s : List Char) :
    (escaped quote s).length = s.length + s.count quote := by
  induction s with
  | nil => rfl
  | cons c rest ih =>
    rw [escaped_cons, List.length_append, ih, List.count_cons]
    by_cases hc : c = quote
    · simp only [hc, beq_self_eq_true, if_true, List.length_cons, List.length_nil]
      omega
    · simp only [beq_false_of_ne hc, Bool.false_eq_true, if_false, List.length_cons,
        List.length_nil]
      omega

/-- A text without the quote is written as it is. -/
theorem escaped_of_not_mem {s : List Char} (h : quote ∉ s) : escaped quote s = s := by
  induction s with
  | nil => rfl
  | cons c rest ih =>
    obtain ⟨hc, hrest⟩ := not_or.mp (mt List.mem_cons.mpr h)
    rw [escaped_cons, beq_false_of_ne (Ne.symm hc), ih hrest]
    rfl

/-- A literal ends with a quote that stands last, and goes on with anything but a backslash. -/
theorem restOfLiteral?_cons {c : Char} (hc : c ≠ '\\') (rest : List Char) :
    restOfLiteral? quote (c :: rest) =
      if c = quote then if rest.isEmpty then some [] else none
      else (restOfLiteral? quote rest).map (c :: ·) := by
  rw [restOfLiteral?]
  · exact fun h => absurd h hc
  · exact fun _ _ h => absurd h hc

/-- Every quote in the text of a literal is written with two characters, and so is every character
that a backslash takes. -/
theorem length_of_restOfLiteral? (hquote : quote ≠ '\\') {code s : List Char}
    (h : restOfLiteral? quote code = some s) :
    s.length + s.count quote + 1 ≤ code.length ∧
      ('\\' ∈ s → s.length + s.count quote + 1 < code.length) := by
  induction code using restOfLiteral?.induct quote generalizing s with
  | case1 => cases h
  | case2 => cases h
  | case3 c rest ih =>
    rw [restOfLiteral?] at h
    obtain ⟨t, ht, rfl⟩ := Option.map_eq_some_iff.mp h
    obtain ⟨hle, hlt⟩ := ih ht
    rw [List.count_cons, List.mem_cons]
    by_cases hc : c = quote
    · simp only [hc, beq_self_eq_true, if_true, List.length_cons, hquote.symm, false_or]
      exact ⟨by omega, fun hmem => by have := hlt hmem; omega⟩
    · simp only [beq_false_of_ne hc, Bool.false_eq_true, if_false, List.length_cons]
      exact ⟨by omega, fun _ => by omega⟩
  | case4 rest hempty =>
    rw [restOfLiteral?_cons hquote, if_pos rfl, if_pos hempty] at h
    cases h
    simp
  | case5 rest hmore =>
    rw [restOfLiteral?_cons hquote, if_pos rfl, if_neg hmore] at h
    cases h
  | case6 c rest hnone hsome hc ih =>
    have hplain : c ≠ '\\' := by
      intro heq
      cases rest with
      | nil => exact hnone heq rfl
      | cons d rest => exact hsome d rest heq rfl
    rw [restOfLiteral?_cons hplain, if_neg hc] at h
    obtain ⟨t, ht, rfl⟩ := Option.map_eq_some_iff.mp h
    obtain ⟨hle, hlt⟩ := ih ht
    rw [List.count_cons, List.mem_cons]
    simp only [beq_false_of_ne hc, Bool.false_eq_true, if_false, List.length_cons, hplain.symm,
      false_or]
    exact ⟨by omega, fun hmem => by have := hlt hmem; omega⟩

/-- A text without backslashes is read back from the literal that is written for it. -/
theorem restOfLiteral?_escaped (hquote : quote ≠ '\\') {s : List Char} (h : '\\' ∉ s) :
    restOfLiteral? quote (escaped quote s ++ [quote]) = some s := by
  induction s with
  | nil =>
    rw [escaped, List.flatMap_nil, List.nil_append, restOfLiteral?_cons hquote, if_pos rfl]
    rfl
  | cons c rest ih =>
    obtain ⟨hc, hrest⟩ := not_or.mp (mt List.mem_cons.mpr h)
    rw [escaped_cons, List.append_assoc]
    by_cases heq : c = quote
    · rw [heq, beq_self_eq_true, if_pos rfl]
      change (restOfLiteral? quote (escaped quote rest ++ [quote])).map (quote :: ·) = _
      rw [ih hrest, Option.map_some]
    · rw [beq_false_of_ne heq, if_neg Bool.false_ne_true, List.singleton_append,
        restOfLiteral?_cons (Ne.symm hc), if_neg heq, ih hrest, Option.map_some]

/-- A literal is read as what stands behind its first quote. -/
theorem literalText?_eq_some_iff {code : List Char} {s : String} :
    literalText? quote (String.ofList (quote :: code)) = some s ↔
      restOfLiteral? quote code = some s.toList := by
  rw [literalText?, String.toList_ofList]
  dsimp only
  rw [if_pos rfl, Option.map_eq_some_iff]
  constructor
  · rintro ⟨t, ht, rfl⟩
    rw [ht, String.toList_ofList]
  · exact fun h => ⟨_, h, String.ofList_toList⟩

/-- A text whose quotes are escaped is read back exactly if it holds no backslash. -/
theorem literalText?_escaped_iff (hquote : quote ≠ '\\') (s : String) :
    literalText? quote (String.ofList (quote :: (escaped quote s.toList ++ [quote]))) = some s ↔
      '\\' ∉ s.toList := by
  rw [literalText?_eq_some_iff]
  constructor
  · intro h hmem
    have hlt := (length_of_restOfLiteral? hquote h).2 hmem
    rw [List.length_append, length_escaped, List.length_singleton] at hlt
    omega
  · exact restOfLiteral?_escaped hquote

/-- A text between quotes as it stands is read back exactly if it holds neither the quote nor a
backslash. -/
theorem literalText?_plain_iff (hquote : quote ≠ '\\') (s : String) :
    literalText? quote (String.ofList (quote :: (s.toList ++ [quote]))) = some s ↔
      quote ∉ s.toList ∧ '\\' ∉ s.toList := by
  constructor
  · intro h
    have hrest := literalText?_eq_some_iff.mp h
    have hle := (length_of_restOfLiteral? hquote hrest).1
    rw [List.length_append, List.length_singleton] at hle
    have hnone : quote ∉ s.toList := List.count_eq_zero.mp (by omega)
    refine ⟨hnone, (literalText?_escaped_iff hquote s).mp ?_⟩
    rwa [escaped_of_not_mem hnone]
  · rintro ⟨hnone, hplain⟩
    have hescaped := (literalText?_escaped_iff hquote s).mpr hplain
    rwa [escaped_of_not_mem hnone] at hescaped

end Reading

/-- A dialect writes a text between quotes with the quotes in it escaped. -/
theorem Dialect.writeText_eq (dialect : Dialect) (s : List Char) :
    dialect.writeText s = dialect.quote :: (escaped dialect.quote s ++ [dialect.quote]) :=
  rfl

/-- A text is read back from what a dialect writes exactly if it holds no backslash. -/
theorem Dialect.literalText?_writeText_iff (dialect : Dialect) (hquote : dialect.quote ≠ '\\')
    (s : String) :
    literalText? dialect.quote (String.ofList (dialect.writeText s.toList)) = some s ↔
      '\\' ∉ s.toList := by
  rw [writeText_eq]
  exact literalText?_escaped_iff hquote s

/-- A text node is shown by the literal for its text. -/
theorem Compose.composable_text {node : Value} {s : String}
    (htype : node.field "type" = .ok (.str "text")) (hname : node.field "name" = .ok (.str s)) :
    Compose.composable node =
      .ok ("Text(" ++ String.ofList (kotlin.writeText s.toList) ++ ")") := by
  unfold Compose.composable
  rw [htype, hname]
  rfl

/-- **A text in generated code is read back exactly if it holds no backslash.** This holds of the
first values of state in each dialect and of the texts that a screen shows; a text with a backslash
either loses characters or runs out of its literal. -/
theorem literals_faithful_iff {node : Value} {s : String}
    (htype : node.field "type" = .ok (.str "text")) (hname : node.field "name" = .ok (.str s)) :
    (literalText? '\x27' (dart.writeValue (.str s) "String") = some s ↔ '\\' ∉ s.toList) ∧
      (literalText? '"' (kotlin.writeValue (.str s) "String") = some s ↔ '\\' ∉ s.toList) ∧
      (literalText? '\x27' (typeScript.writeValue (.str s) "string") = some s ↔
        '\\' ∉ s.toList) ∧
      ∃ literal, Compose.composable node = .ok ("Text(" ++ literal ++ ")") ∧
        (literalText? '"' literal = some s ↔ '\\' ∉ s.toList) := by
  have hdart := Dialect.literalText?_writeText_iff dart (by decide) s
  have hkotlin := Dialect.literalText?_writeText_iff kotlin (by decide) s
  have hscript := Dialect.literalText?_writeText_iff typeScript (by decide) s
  exact ⟨hdart, hkotlin, hscript, _, Compose.composable_text htype hname, hkotlin⟩

/-- A text with quotes of both kinds is read back from each literal. -/
theorem literals_faithful_quoted :
    let s := "it\x27s \"so\""
    let node : Value := .object [("type", .str "text"), ("name", .str s)]
    node.field "type" = .ok (.str "text") ∧ node.field "name" = .ok (.str s) ∧
      literalText? '\x27' (dart.writeValue (.str s) "String") = some s ∧
      literalText? '"' (kotlin.writeValue (.str s) "String") = some s ∧
      literalText? '\x27' (typeScript.writeValue (.str s) "string") = some s ∧
      ∃ literal, Compose.composable node = .ok ("Text(" ++ literal ++ ")") ∧
        literalText? '"' literal = some s := by
  intro s node
  have htype : node.field "type" = .ok (.str "text") := rfl
  have hname : node.field "name" = .ok (.str s) := rfl
  have hplain : '\\' ∉ s.toList := by decide
  obtain ⟨hdart, hkotlin, hscript, literal, hcode, hliteral⟩ := literals_faithful_iff htype hname
  exact ⟨htype, hname, hdart.mpr hplain, hkotlin.mpr hplain, hscript.mpr hplain, literal, hcode,
    hliteral.mpr hplain⟩

/-- A backslash in a text takes the character behind it; at the end of a text it takes the quote
that should end the literal. -/
theorem backslash_is_lost :
    literalText? '\x27' (dart.writeValue (.str "a\\b") "String") = some "ab" ∧
      literalText? '"' (kotlin.writeValue (.str "a\\b") "String") = some "ab" ∧
      literalText? '\x27' (typeScript.writeValue (.str "a\\") "string") = none ∧
      ∃ literal, Compose.composable (.object [("type", .str "text"), ("name", .str "a\\")]) =
        .ok ("Text(" ++ literal ++ ")") ∧ literalText? '"' literal = none := by
  refine ⟨rfl, rfl, rfl, _, Compose.composable_text rfl rfl, rfl⟩

end Restack.Target
