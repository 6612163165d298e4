import Restack.Proofs.Intake.Parts

/-!
# What is left out, part by part

The rules look for the name of a folder between slashes anywhere in a path, and they fit patterns to
its last part. Said of the parts of a path, in small letters and with slashes of either kind between
them, this comes to a plain list: a folder of one of the names in front of the last part, or a last
part with one of the names, one of the endings, or one beginning. Names that only look like these
are kept.
-/

namespace Restack.Intake

open Restack.Text

namespace Glob

variable {text s : List Char}

/-- Characters that stand for themselves are parts of a pattern one by one. -/
theorem ofText_append (htext : isPattern text = false) (more : List Char) :
    ofText (text ++ more) = text.map .one ++ ofText more := by
  induction text with
  | nil => rfl
  | cons c rest ih =>
    have hsigns : ¬(c = '*' ∨ c = '?' ∨ c = '[') ∧ isPattern rest = false := by
      simpa [isPattern, not_or, and_assoc] using htext
    obtain ⟨hc, hrest⟩ := hsigns
    have hstar : c ≠ '*' := fun h => hc (Or.inl h)
    have hmark : c ≠ '?' := fun h => hc (Or.inr (Or.inl h))
    have hbracket : c ≠ '[' := fun h => hc (Or.inr (Or.inr h))
    have hparts : ofText (c :: (rest ++ more)) = .one c :: ofText (rest ++ more) := by
      simp only [ofText, partsFrom]
    rw [List.cons_append, hparts, ih hrest, List.map_cons, List.cons_append]

/-- The ends of a text are its suffixes. -/
theorem mem_ends_iff : text ∈ ends s ↔ text <:+ s := by
  induction s with
  | nil => simp [ends]
  | cons c rest ih => rw [ends, List.mem_cons, ih, List.suffix_cons_iff]

/-- Characters that stand for themselves are taken off the front of a name. -/
theorem fits_append (text : List Char) (glob : Glob) :
    fits (text.map .one ++ glob) s = true ↔ ∃ rest, s = text ++ rest ∧ fits glob rest = true := by
  induction text generalizing s with
  | nil => simp
  | cons c others ih =>
    cases s with
    | nil => simp [fits]
    | cons d rest =>
      have hfits : fits ((c :: others).map .one ++ glob) (d :: rest) =
          (d == c && fits (others.map .one ++ glob) rest) := rfl
      rw [hfits, Bool.and_eq_true, beq_iff_eq, ih]
      constructor
      · rintro ⟨rfl, tail, rfl, htail⟩
        exact ⟨tail, rfl, htail⟩
      · rintro ⟨tail, heq, htail⟩
        obtain ⟨rfl, rfl⟩ := List.cons.inj heq
        exact ⟨rfl, tail, rfl, htail⟩

/-- Nothing but an empty text fits an empty glob. -/
theorem fits_nil_iff : fits [] s = true ↔ s = [] := List.isEmpty_iff

/-- A star takes any front of a text, if the rest fits what follows. -/
theorem fits_many (glob : Glob) :
    fits (.many :: glob) s = true ↔ ∃ rest, rest <:+ s ∧ fits glob rest = true := by
  have hfits : fits (.many :: glob) s = (ends s).any (fits glob) := by rw [fits]
  rw [hfits, List.any_eq_true]
  exact exists_congr fun rest => and_congr_left' mem_ends_iff

/-- A pattern with a star in front stands for the names with an ending. -/
theorem fits_ending_iff (htext : isPattern text = false) :
    fits (ofText ('*' :: text)) s = true ↔ text <:+ s := by
  have hparts : ofText ('*' :: text) = .many :: text.map .one := by
    have hplain := ofText_append htext []
    rw [List.append_nil] at hplain
    exact congrArg (GlobPart.many :: ·) (hplain.trans (List.append_nil _))
  rw [hparts, fits_many]
  constructor
  · rintro ⟨rest, hrest, hfits⟩
    rw [← List.append_nil (text.map GlobPart.one), fits_append] at hfits
    obtain ⟨tail, rfl, htail⟩ := hfits
    rwa [fits_nil_iff.mp htail, List.append_nil] at hrest
  · intro hending
    refine ⟨text, hending, ?_⟩
    rw [← List.append_nil (text.map GlobPart.one), fits_append]
    exact ⟨[], (List.append_nil text).symm, rfl⟩

/-- A pattern with a star at its end stands for the names with a beginning. -/
theorem fits_beginning_iff (htext : isPattern text = false) :
    fits (ofText (text ++ ['*'])) s = true ↔ text <+: s := by
  rw [ofText_append htext, fits_append]
  constructor
  · rintro ⟨rest, rfl, -⟩
    exact List.prefix_append text rest
  · rintro ⟨rest, rfl⟩
    refine ⟨rest, rfl, (fits_many []).mpr ⟨[], List.nil_suffix, rfl⟩⟩

end Glob

/-- The endings of files that tools leave behind. -/
def strayEndings : List String := [".log", ".pyc", ".swp", ".swo", "~"]

/-- What the names of files with settings of a machine begin with. -/
def machineFront : String := ".env"

/-- The patterns among the rules are those for these endings and for this beginning. -/
theorem pattern_mem_iff {text : String} :
    .pattern text ∈ skipRules ↔
      (∃ ending ∈ strayEndings, text = "*" ++ ending) ∨ text = machineFront ++ "*" := by
  simp [skipRules, strayEndings, machineFront, or_assoc]

/-- The parts of a path, in small letters and between slashes of either kind. -/
def smallParts (path : List Char) : List (List Char) := (lower (path.map slashed)).splitOn '/'

/-- A file is left out for one of the parts of its path. -/
inductive IsLeftOut (path : List Char) : Prop where
  /-- It is none but a folder. -/
  | folder (h : ['/'] <:+ path)
  /-- It stands below a folder with a name of the rules. -/
  | below {name : String} (hname : .folder name ∈ skipRules)
    (h : name.toList ∈ (smallParts path).dropLast)
  /-- It has a name of the rules itself. -/
  | named {name : String} (hname : .named name ∈ skipRules)
    (h : (smallParts path).getLast? = some name.toList)
  /-- A tool has left it behind. -/
  | stray {ending : String} {last : List Char} (hending : ending ∈ strayEndings)
    (hlast : (smallParts path).getLast? = some last)
    (h : ending.toList <:+ last)
  /-- It has settings of a machine. -/
  | machine {last : List Char}
    (hlast : (smallParts path).getLast? = some last)
    (h : machineFront.toList <+: last)

/-- A pattern among the rules fits a name with one of the endings or with the beginning. -/
theorem exists_pattern_fits_iff (name : List Char) :
    (∃ text, .pattern text ∈ skipRules ∧ (Glob.ofText text.toList).fits name = true) ↔
      (∃ ending ∈ strayEndings, ending.toList <:+ name) ∨ machineFront.toList <+: name := by
  have hendings : ∀ ending ∈ strayEndings, Glob.isPattern ending.toList = false := by decide
  have hending : ∀ ending ∈ strayEndings,
      ((Glob.ofText ("*" ++ ending).toList).fits name = true ↔ ending.toList <:+ name) := by
    intro ending hmem
    rw [String.toList_append]
    exact Glob.fits_ending_iff (hendings ending hmem)
  have hfront : (Glob.ofText (machineFront ++ "*").toList).fits name = true ↔
      machineFront.toList <+: name := by
    rw [String.toList_append]
    exact Glob.fits_beginning_iff (by decide)
  simp only [pattern_mem_iff]
  constructor
  · rintro ⟨text, ⟨ending, hmem, rfl⟩ | rfl, hfits⟩
    · exact Or.inl ⟨ending, hmem, (hending ending hmem).mp hfits⟩
    · exact Or.inr (hfront.mp hfits)
  · rintro (⟨ending, hmem, h⟩ | h)
    · exact ⟨_, Or.inl ⟨ending, hmem, rfl⟩, (hending ending hmem).mpr h⟩
    · exact ⟨_, Or.inr rfl, hfront.mpr h⟩

/-- **A file is left out for one of the parts of its path, and for nothing else.** -/
theorem isSkipped_iff_isLeftOut (path : List Char) : isSkipped path = true ↔ IsLeftOut path := by
  have hparts : skipParts path = smallParts path := (splitOn_lower _).symm
  rw [isSkipped_iff, hparts]
  constructor
  · rintro (hfolder | ⟨rule, hrule, hfits⟩)
    · exact .folder hfolder
    · cases rule with
      | folder name => exact .below hrule hfits
      | named name => exact .named hrule hfits
      | pattern text =>
        obtain ⟨last, hlast, hfits⟩ := hfits
        rcases (exists_pattern_fits_iff last).mp ⟨text, hrule, hfits⟩ with
          ⟨ending, hending, h⟩ | hfront
        · exact .stray hending hlast h
        · exact .machine hlast hfront
  · intro hleft
    cases hleft with
    | folder hfolder => exact Or.inl hfolder
    | below hname h => exact Or.inr ⟨_, hname, h⟩
    | named hname h => exact Or.inr ⟨_, hname, h⟩
    | @stray ending last hending hlast h =>
      obtain ⟨text, hrule, hfits⟩ :=
        (exists_pattern_fits_iff last).mpr (Or.inl ⟨ending, hending, h⟩)
      exact Or.inr ⟨.pattern text, hrule, last, hlast, hfits⟩
    | @machine last hlast h =>
      obtain ⟨text, hrule, hfits⟩ := (exists_pattern_fits_iff last).mpr (Or.inr h)
      exact Or.inr ⟨.pattern text, hrule, last, hlast, hfits⟩

/-- Folders and files whose names only begin or end as those of the rules are kept, whatever their
case. -/
example : isSkipped "Src/Builder\\environment.ts".toList = false ∧
    isSkipped "Src/Build\\environment.ts".toList = true := by decide +kernel

end Restack.Intake
