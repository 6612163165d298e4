import Restack.Proofs.Style.Reading
import Restack.Proofs.Text.Pieces

/-!
# Style sheets written as comments

A class that is written as a comment, with one sign between a property and its value and one behind
each value, is read from the comment as it is. Texts without an opening brace may stand around the
comments.
-/

namespace Restack.Style.Sheet

open Restack.Text

/-- A property with its value as it is written. -/
def settingText (setting : String × String) : String :=
  setting.1 ++ ": " ++ setting.2 ++ ";"

/-- What stands between the braces of a class. -/
def blockText (settings : List (String × String)) : String :=
  " " ++ joined " " (settings.map settingText) ++ " "

/-- A class written as a comment. -/
def classComment (entry : String × List (String × String)) : String :=
  "// ." ++ entry.1 ++ " \x7b" ++ blockText entry.2 ++ "\x7d"

section Settings

variable {setting : String × String} {settings : List (String × String)} {rest : List Char}

/-- No setting begins where no property can. -/
theorem scan_of_not_property {c : Char} (hc : isPropertyChar c = false) :
    scan readSetting 0 (c :: rest) = scan readSetting 0 rest := by
  refine scan_of_none ?_
  rw [readSetting, if_neg]
  simp [hc]

/-- A value that is written with one blank before it is read without the blank. -/
theorem readSetting_settingText (h : IsSetting (setting.1.toList, setting.2.toList))
    (rest : List Char) :
    readSetting ((settingText setting).toList ++ rest) =
      some ((setting.1.toList, setting.2.toList), ';' :: rest) := by
  obtain ⟨property, value⟩ := setting
  have htext : (settingText (property, value)).toList ++ rest =
      property.toList ++ ':' :: (' ' :: value.toList ++ ';' :: rest) := by
    simp [settingText]
  have hstart : (property.toList ++ ':' :: (' ' :: value.toList ++ ';' :: rest)).head?.any
      isPropertyChar = true := by
    cases hname : property.toList with
    | nil => exact absurd hname h.start
    | cons c others => exact h.kind c (hname ▸ List.mem_cons_self)
  have hvalue : ∀ c ∈ ' ' :: value.toList, (c != ';') = true := by
    intro c hc
    rw [bne_iff_ne]
    rintro rfl
    rcases List.mem_cons.mp hc with hblank | hc
    · cases hblank
    · exact h.inside hc
  rw [htext, readSetting, if_pos hstart, List.dropWhile_append_of_pos h.kind,
    List.takeWhile_append_of_pos h.kind]
  have hcolon : ((':' :: (' ' :: value.toList ++ ';' :: rest)).dropWhile isPropertyChar).dropWhile
      isBlank = ':' :: (' ' :: value.toList ++ ';' :: rest) := rfl
  have hsign : isPropertyChar ':' = false := rfl
  simp only [hcolon]
  rw [List.takeWhile_append_of_pos hvalue, List.dropWhile_append_of_pos hvalue, if_neg (by simp)]
  simp [hsign, trim_cons_of_blank (show isBlank ' ' = true from rfl), h.trimmed.trim_eq]

/-- A setting that is written is read back, and reading goes on behind it. -/
theorem scan_settingText (h : IsSetting (setting.1.toList, setting.2.toList)) :
    scan readSetting 0 ((settingText setting).toList ++ rest) =
      (setting.1.toList, setting.2.toList) :: scan readSetting 0 rest := by
  have hread := readSetting_settingText h rest
  obtain ⟨c, others, hcons, hsuffix⟩ := readSetting_suffix hread
  rw [hcons] at hread ⊢
  rw [scan_of_some hread hsuffix, scan_of_not_property rfl]

/-- Settings that are written one after the other are read back in this order. -/
theorem scan_settingTexts
    (h : ∀ setting ∈ settings, IsSetting (setting.1.toList, setting.2.toList)) :
    scan readSetting 0
        (joinWith [' '] (settings.map fun setting => (settingText setting).toList) ++ [' ']) =
      settings.map fun setting => (setting.1.toList, setting.2.toList) := by
  induction settings with
  | nil => rfl
  | cons first others ih =>
    obtain ⟨hfirst, hothers⟩ := List.forall_mem_cons.mp h
    cases others with
    | nil =>
      rw [List.map_singleton, joinWith, scan_settingText hfirst]
      rfl
    | cons next others =>
      rw [List.map_cons, List.map_cons, joinWith, List.append_assoc, List.append_assoc,
        scan_settingText hfirst]
      · rw [List.map_cons, ← ih hothers]
        exact congrArg _ (scan_of_not_property rfl)
      · exact List.cons_ne_nil _ _

/-- The settings of a block that is written are those that were written. -/
theorem settingsOf_blockText
    (h : ∀ setting ∈ settings, IsSetting (setting.1.toList, setting.2.toList))
    (hnodup : (settings.map Prod.fst).Nodup) : settingsOf (blockText settings) = settings := by
  have htext : (blockText settings).toList =
      ' ' :: (joinWith [' '] (settings.map fun setting => (settingText setting).toList) ++
        [' ']) := by
    simp [blockText, joined, List.map_map, Function.comp_def]
  rw [settingsOf_eq, htext, scan_of_not_property rfl, scan_settingTexts h, List.map_map]
  simp only [Function.comp_def, String.ofList_toList, List.map_id']
  exact Value.ofEntries_of_nodup hnodup

end Settings

section Classes

variable {before after rest : List Char} {entry : String × List (String × String)}

/-- What is dropped in front of two texts is dropped from the first, if the second does not begin
so. -/
theorem dropWhile_append_of_head {p : Char → Bool} (h : ∀ c ∈ after.head?, p c = false) :
    (before ++ after).dropWhile p = before.dropWhile p ++ after := by
  have hafter : after.dropWhile p = after := by
    cases after with
    | nil => rfl
    | cons c others => exact List.dropWhile_cons_of_neg (by simp [h c rfl])
  rw [List.dropWhile_append]
  split
  · rename_i hempty
    rw [hafter, List.isEmpty_iff.mp hempty, List.nil_append]
  · rfl

/-- No class begins in a text without an opening brace, if a slash or nothing comes behind it. -/
theorem scan_readBlock_append (hbefore : '\x7b' ∉ before) (hafter : ∀ c ∈ after.head?, c = '/') :
    scan readBlock 0 (before ++ after) = scan readBlock 0 after := by
  refine scan_append_of_none fun s hs hne => ?_
  cases s with
  | nil => exact absurd rfl hne
  | cons c name =>
    have hname : '\x7b' ∉ name := fun hmem => hbefore (hs.subset (List.mem_cons_of_mem c hmem))
    have hopening : ∀ inner, ((name ++ after).dropWhile isClassChar).dropWhile isBlank ≠
        '\x7b' :: inner := by
      intro inner hinner
      rw [dropWhile_append_of_head (fun c hc => by rw [hafter c hc]; rfl),
        dropWhile_append_of_head (fun c hc => by rw [hafter c hc]; rfl)] at hinner
      cases hrest : (name.dropWhile isClassChar).dropWhile isBlank with
      | nil =>
        rw [hrest, List.nil_append] at hinner
        cases hafter '\x7b' (by rw [hinner]; rfl)
      | cons d others =>
        rw [hrest] at hinner
        cases hinner
        have hmem : '\x7b' ∈ (name.dropWhile isClassChar).dropWhile isBlank :=
          hrest ▸ List.mem_cons_self
        exact hname ((List.dropWhile_suffix _).subset ((List.dropWhile_suffix _).subset hmem))
    rw [List.cons_append]
    unfold readBlock
    split
    · rename_i others hcons
      cases hcons
      split
      · split
        · rename_i inner hinner
          exact absurd hinner (hopening inner)
        · rfl
      · rfl
    · rfl

/-- No class is in a text without an opening brace. -/
theorem scan_readBlock_eq_nil {s : List Char} (h : '\x7b' ∉ s) : scan readBlock 0 s = [] := by
  have hnone : scan readBlock 0 (s ++ []) = [] := scan_readBlock_append h (by simp)
  rwa [List.append_nil] at hnone

/-- A class that is written is read as it is. -/
theorem readBlock_classText {name block : List Char} (h : IsClassName name)
    (hblock : '\x7d' ∉ block) (rest : List Char) :
    readBlock ('.' :: (name ++ ' ' :: '\x7b' :: (block ++ '\x7d' :: rest))) =
      some ((name, block), rest) := by
  have hstart : (name ++ ' ' :: '\x7b' :: (block ++ '\x7d' :: rest)).head?.any isClassStart =
      true := by
    have hname := h.start
    cases name with
    | nil => cases hname
    | cons c others => exact hname
  have hinside : ∀ c ∈ block, (c != '\x7d') = true := fun c hc =>
    bne_iff_ne.mpr fun heq => hblock (heq ▸ hc)
  have hopening : ((' ' :: '\x7b' :: (block ++ '\x7d' :: rest)).dropWhile isClassChar).dropWhile
      isBlank = '\x7b' :: (block ++ '\x7d' :: rest) := rfl
  have hblank : isClassChar ' ' = false := rfl
  have hclosing : ('\x7d' :: rest).dropWhile (· != '\x7d') = '\x7d' :: rest := rfl
  simp only [readBlock, hstart, if_true, List.dropWhile_append_of_pos h.kind, hopening,
    List.takeWhile_append_of_pos h.kind, List.dropWhile_append_of_pos hinside, hclosing,
    List.takeWhile_append_of_pos hinside]
  simp [hblank]

/-- There is no closing brace within a block. -/
theorem brace_not_mem_blockText {settings : List (String × String)}
    (h : ∀ setting ∈ settings, IsSetting (setting.1.toList, setting.2.toList) ∧
      '\x7d' ∉ setting.2.toList) : '\x7d' ∉ (blockText settings).toList := by
  have hsetting : ∀ setting ∈ settings, '\x7d' ∉ (settingText setting).toList := by
    intro setting hmem hbrace
    have hproperty : '\x7d' ∉ setting.1.toList := fun hproperty =>
      absurd ((h setting hmem).1.kind _ hproperty) (by decide)
    simp [settingText, hproperty, (h setting hmem).2] at hbrace
  intro hbrace
  simp only [blockText, joined, List.map_map, String.toList_append, String.toList_ofList,
    List.mem_append] at hbrace
  rcases hbrace with (hbrace | hbrace) | hbrace
  · cases (List.mem_singleton.mp hbrace)
  · rcases mem_joinWith hbrace with hbrace | ⟨piece, hpiece, hbrace⟩
    · cases (List.mem_singleton.mp hbrace)
    · obtain ⟨setting, hmem, rfl⟩ := List.mem_map.mp hpiece
      exact hsetting setting hmem hbrace
  · cases (List.mem_singleton.mp hbrace)

/-- No class begins where there is no dot. -/
theorem scan_of_ne_dot {c : Char} (hc : c ≠ '.') :
    scan readBlock 0 (c :: rest) = scan readBlock 0 rest := by
  refine scan_of_none ?_
  unfold readBlock
  split
  · rename_i heq
    cases heq
    exact absurd rfl hc
  · rfl

/-- A class that is written is read back, and reading goes on behind it. -/
theorem scan_classComment (h : IsClassName entry.1.toList)
    (hsettings : ∀ setting ∈ entry.2, IsSetting (setting.1.toList, setting.2.toList) ∧
      '\x7d' ∉ setting.2.toList) :
    scan readBlock 0 ((classComment entry).toList ++ rest) =
      (entry.1.toList, (blockText entry.2).toList) :: scan readBlock 0 rest := by
  have htext : (classComment entry).toList ++ rest = '/' :: '/' :: ' ' :: '.' ::
      (entry.1.toList ++ ' ' :: '\x7b' :: ((blockText entry.2).toList ++ '\x7d' :: rest)) := by
    simp [classComment]
  have hread := readBlock_classText h (brace_not_mem_blockText hsettings) rest
  obtain ⟨_, _, hcons, hsuffix⟩ := readBlock_suffix hread
  cases hcons
  rw [htext, scan_of_ne_dot (by decide), scan_of_ne_dot (by decide), scan_of_ne_dot (by decide),
    scan_of_some hread hsuffix]

/-- The classes of a style sheet are read from their comments. -/
theorem scan_classComments {classes : List (String × List (String × String))}
    (hname : ∀ entry ∈ classes, IsClassName entry.1.toList)
    (hsettings : ∀ entry ∈ classes, ∀ setting ∈ entry.2,
      IsSetting (setting.1.toList, setting.2.toList) ∧ '\x7d' ∉ setting.2.toList)
    (hafter : '\x7b' ∉ after) :
    scan readBlock 0
        (classes.flatMap (fun entry => (classComment entry).toList ++ ['\n']) ++ after) =
      classes.map fun entry => (entry.1.toList, (blockText entry.2).toList) := by
  induction classes with
  | nil => exact scan_readBlock_eq_nil hafter
  | cons first others ih =>
    obtain ⟨hfirst, hname⟩ := List.forall_mem_cons.mp hname
    obtain ⟨hblock, hsettings⟩ := List.forall_mem_cons.mp hsettings
    rw [List.flatMap_cons, List.append_assoc, List.append_assoc, scan_classComment hfirst hblock,
      List.singleton_append, scan_of_ne_dot (by decide), ih hname hsettings, List.map_cons]

/-- A style sheet is read from its comments, whatever stands around them, as long as no brace is
opened there. -/
theorem ofText_classComments {sheet : Sheet} (h : sheet.WellFormed) (hbefore : '\x7b' ∉ before)
    (hafter : '\x7b' ∉ after) :
    ofText (String.ofList (before ++ (sheet.classes.flatMap (fun entry =>
      (classComment entry).toList ++ ['\n']) ++ after))) = sheet := by
  have hscan : scan readBlock 0 (before ++ (sheet.classes.flatMap (fun entry =>
      (classComment entry).toList ++ ['\n']) ++ after)) =
        sheet.classes.map fun entry => (entry.1.toList, (blockText entry.2).toList) := by
    rw [← scan_classComments h.name h.setting hafter]
    cases hclasses : sheet.classes with
    | nil =>
      have hwhole : '\x7b' ∉ before ++ after := by simp [hbefore, hafter]
      rw [List.flatMap_nil, List.nil_append, scan_readBlock_eq_nil hwhole,
        scan_readBlock_eq_nil hafter]
    | cons first others =>
      refine scan_readBlock_append hbefore ?_
      simp [classComment]
  have hclasses : (sheet.classes.map fun entry => (entry.1.toList, (blockText entry.2).toList)).map
      (fun found => (String.ofList found.1, settingsOf (String.ofList found.2))) =
        sheet.classes := by
    rw [List.map_map]
    refine (List.map_congr_left fun entry hentry => ?_).trans (List.map_id _)
    simp only [Function.comp_def, String.ofList_toList, id_eq]
    rw [settingsOf_blockText (fun setting hsetting => (h.setting entry hentry setting hsetting).1)
      (h.nodup_settings entry hentry)]
  have hread := classes_ofText (String.ofList (before ++ (sheet.classes.flatMap (fun entry =>
    (classComment entry).toList ++ ['\n']) ++ after)))
  rw [String.toList_ofList, hscan, hclasses, Value.ofEntries_of_nodup h.nodup] at hread
  exact congrArg Sheet.mk hread

end Classes

end Restack.Style.Sheet
