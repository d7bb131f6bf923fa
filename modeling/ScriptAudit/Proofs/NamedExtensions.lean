import ScriptAudit.Project.Search
import ScriptAudit.Proofs.SettingDemands

/-!
# Names with an extension of the settings

An extension of the settings is any text that starts with a dot, and so it may hold further dots. A
name is looked at from its last dot on. A file that is named by an extension is therefore recognised
by the last part of the extension, and that part may not be among the extensions.

- `Text.lower_map_toLower`: texts that differ in the case of ASCII letters have the same lower case,
  even with a capital sigma among these letters.
- `lastDot?_append`, `lastDot?_map_toLower`: the last dot of a text.
- `lastPart`: what stands from the last dot of an extension on.
- `IsNamed`: a stem and an extension make up the name of a file.
- `IsNamed.lowerExtension_eq`: the stem has no part in the extension of the name.
- `isSourceName_iff_lastPart`: **a file that is named by an extension is a script file exactly if the
  last part of the extension is an extension as well, which it is if there is only one dot.**
-/

namespace ScriptAudit

/-! ## The case of ASCII letters -/

namespace Text

/-- What does not tell the capital letters from the small ones tells no character from its lower
case. -/
theorem eq_of_toLower {β : Type} {f : Char → β}
    (hletters : ∀ n < 26, f (Char.ofNat (65 + n)).toLower = f (Char.ofNat (65 + n))) (c : Char) :
    f c.toLower = f c := by
  by_cases hupper : 65 ≤ c.toNat ∧ c.toNat ≤ 90
  · have hc : Char.ofNat (65 + (c.toNat - 65)) = c := by
      rw [Nat.add_sub_cancel' hupper.1, Char.ofNat_toNat]
    rw [← hc]
    exact hletters _ (by omega)
  · have hsame : c.toLower = c := dif_neg (by simpa [UInt32.le_iff_toNat_le] using hupper)
    rw [hsame]

/-- The code points of the letters. -/
theorem toNat_letters : ∀ n < 26,
    (Char.ofNat (65 + n)).toNat = 65 + n ∧ (Char.ofNat (65 + n)).toLower.toNat = 97 + n := by
  decide

theorem isCased_toLower (c : Char) : isCased c.toLower = isCased c :=
  eq_of_toLower (by decide) c

/-- No letter is passed over when a neighbour is asked for. -/
theorem isCaseIgnorable_eq_false {c : Char}
    (hletter : (65 ≤ c.toNat ∧ c.toNat ≤ 90) ∨ (97 ≤ c.toNat ∧ c.toNat ≤ 122)) :
    isCaseIgnorable c = false := by
  have hranges : ∀ range ∈ caseIgnorableRanges,
      range.2 < 65 ∨ (90 < range.1 ∧ range.2 < 97) ∨ 122 < range.1 := by
    decide +kernel
  rw [isCaseIgnorable, inRanges, List.any_eq_false]
  intro range hrange
  have hapart := hranges range hrange
  simp only [Bool.and_eq_true, decide_eq_true_eq]
  omega

theorem isCaseIgnorable_toLower (c : Char) : isCaseIgnorable c.toLower = isCaseIgnorable c := by
  apply eq_of_toLower
  intro n hn
  obtain ⟨hcapital, hsmall⟩ := toNat_letters n hn
  rw [isCaseIgnorable_eq_false (by omega), isCaseIgnorable_eq_false (by omega)]

theorem lowerChar_toLower (c : Char) : lowerChar c.toLower = lowerChar c := by
  apply eq_of_toLower
  intro n hn
  obtain ⟨hcapital, hsmall⟩ := toNat_letters n hn
  have htwice : ∀ n < 26, (Char.ofNat (65 + n)).toLower.toLower = (Char.ofNat (65 + n)).toLower := by
    decide
  rw [lowerChar, if_pos (by omega), lowerChar, if_pos (by omega), htwice n hn]

theorem toLower_eq_sigma_iff (c : Char) : c.toLower = 'Σ' ↔ c = 'Σ' :=
  iff_of_eq (eq_of_toLower (f := (· = 'Σ')) (by simp only [eq_iff_iff]; decide) c)

theorem toLower_eq_dot_iff (c : Char) : c.toLower = '.' ↔ c = '.' :=
  iff_of_eq (eq_of_toLower (f := (· = '.')) (by simp only [eq_iff_iff]; decide) c)

theorem endsWord_map_toLower (before after : List Char) :
    endsWord (before.map Char.toLower) (after.map Char.toLower) = endsWord before after := by
  have hignorable : isCaseIgnorable ∘ Char.toLower = isCaseIgnorable :=
    funext isCaseIgnorable_toLower
  simp only [endsWord, List.dropWhile_map, hignorable, List.head?_map, Option.any_map,
    isCased_toLower]

theorem lowerAfter_map_toLower (before text : List Char) :
    lowerAfter (before.map Char.toLower) (text.map Char.toLower) = lowerAfter before text := by
  -- The characters before are changed as well, since a capital sigma looks back at them.
  induction text generalizing before with
  | nil => rfl
  | cons c text ih =>
    rw [List.map_cons, lowerAfter, lowerAfter, ← List.map_cons, ih]
    simp only [toLower_eq_sigma_iff, endsWord_map_toLower, lowerChar_toLower]

/-- The lower case of a text is that of the text with small ASCII letters. -/
theorem lower_map_toLower (text : List Char) : lower (text.map Char.toLower) = lower text :=
  lowerAfter_map_toLower [] text

/-- Texts that differ in the case of ASCII letters have the same lower case. -/
theorem lower_congr {text other : List Char}
    (h : text.map Char.toLower = other.map Char.toLower) : lower text = lower other := by
  rw [← lower_map_toLower, h, lower_map_toLower]

end Text

/-! ## The last dot -/

/-- A text with a dot is cut at its last one. -/
theorem lastDot?_append {before tail : List Char} (h : '.' ∉ tail) :
    lastDot? (before ++ '.' :: tail) = some (before, '.' :: tail) := by
  have hafter : (before ++ '.' :: tail).reverse.takeWhile (· != '.') = tail.reverse :=
    Text.takeWhile_reverse_append h
  have hlength : (before ++ '.' :: tail).length = before.length + (tail.length + 1) := by
    rw [List.length_append, List.length_cons]
  have hbefore : before.length + (tail.length + 1) - tail.length - 1 = before.length := by omega
  rw [lastDot?, hafter, List.length_reverse, hlength, if_neg (by omega), hbefore]
  simp only [List.take_left, List.drop_left]

/-- The last dot does not move if small letters are written for capital ones. -/
theorem lastDot?_map_toLower (text : List Char) :
    lastDot? (text.map Char.toLower)
      = (lastDot? text).map (Prod.map (·.map Char.toLower) (·.map Char.toLower)) := by
  have hdot : (· != '.') ∘ Char.toLower = (· != '.') :=
    funext fun c => Bool.eq_iff_iff.2 (by simp [Text.toLower_eq_dot_iff])
  simp only [lastDot?, ← List.map_reverse, List.takeWhile_map, hdot, List.length_map]
  split
  · rfl
  · rw [Option.map_some, Prod.map_apply, List.map_take, List.map_drop]

theorem exists_lastDot {text : List Char} (h : '.' ∈ text) :
    ∃ before tail, text = before ++ '.' :: tail ∧ '.' ∉ tail := by
  obtain ⟨tail, before, htext, htail⟩ :=
    List.eq_append_cons_of_mem (List.mem_reverse.2 h)
  refine ⟨before.reverse, tail.reverse, ?_, by simpa using htail⟩
  rw [← List.reverse_reverse text, htext]
  simp

/-- What stands from the last dot of a text on. -/
def lastPart (text : List Char) : List Char :=
  ((lastDot? text).map (·.2)).getD []

theorem lastPart_append {before tail : List Char} (h : '.' ∉ tail) :
    lastPart (before ++ '.' :: tail) = '.' :: tail := by
  rw [lastPart, lastDot?_append h]
  rfl

theorem lastPart_map_toLower (text : List Char) :
    lastPart (text.map Char.toLower) = (lastPart text).map Char.toLower := by
  rw [lastPart, lastPart, lastDot?_map_toLower]
  cases lastDot? text <;> rfl

/-- The extension of a name is its last part, if something other than dots stands in front of a text
that has a dot. -/
theorem extension_append {stem rest : String} (hstem : ∃ c ∈ stem.toList, c ≠ '.')
    (hrest : '.' ∈ rest.toList) (hname : '/' ∉ (stem ++ rest).toList) :
    extension (stem ++ rest) = String.ofList (lastPart rest.toList) := by
  obtain ⟨before, tail, heq, htail⟩ := exists_lastDot hrest
  have hdots : (stem.toList ++ before).all (· == '.') = false := by
    obtain ⟨c, hc, hne⟩ := hstem
    rw [List.all_eq_false]
    exact ⟨c, List.mem_append_left _ hc, by simpa using hne⟩
  have hlast : lastDot? (stem ++ rest).toList = some (stem.toList ++ before, '.' :: tail) := by
    rw [String.toList_append, heq, ← List.append_assoc, lastDot?_append htail]
  simp only [extension, Text.split_of_notMem hname, List.getLast?_singleton, Option.getD_some,
    hlast, hdots, Bool.false_eq_true, if_false]
  rw [heq, lastPart_append htail]

/-! ## Names -/

/-- A stem and an extension make up the name of a file. The ASCII letters of the extension may be
written in either case, and the stem is not made of dots only. -/
structure IsNamed (stem written extension : String) : Prop where
  letters : written.toList.map Char.toLower = extension.toList.map Char.toLower
  stem_ne_dots : ∃ c ∈ stem.toList, c ≠ '.'
  isComponent : '/' ∉ (stem ++ written).toList

variable {stem written e : String}

theorem dot_mem_of_startsWith (h : Text.startsWith "." e = true) : '.' ∈ e.toList := by
  have hdot : ['.'] <+: e.toList := List.isPrefixOf_iff_prefix.1 h
  exact hdot.subset (List.mem_singleton_self '.')

theorem dot_mem_of_letters (h : written.toList.map Char.toLower = e.toList.map Char.toLower)
    (hdot : '.' ∈ e.toList) : '.' ∈ written.toList := by
  have hmem : '.' ∈ written.toList.map Char.toLower := by
    rw [h]
    exact List.mem_map.2 ⟨'.', hdot, rfl⟩
  obtain ⟨c, hc, hlower⟩ := List.mem_map.1 hmem
  rwa [(Text.toLower_eq_dot_iff c).1 hlower] at hc

/-- The last part of an extension is the extension of the name, whatever the stem is and in whatever
case the letters are. -/
theorem IsNamed.lowerExtension_eq (h : IsNamed stem written e)
    (hdot : Text.startsWith "." e = true) :
    lowerExtension (stem ++ written) = String.ofList (Text.lower (lastPart e.toList)) := by
  have hwritten : '.' ∈ written.toList := dot_mem_of_letters h.letters (dot_mem_of_startsWith hdot)
  -- The text is cut before it is put in lower case, so a sigma does not see what stands in front.
  have hpart : (lastPart written.toList).map Char.toLower = (lastPart e.toList).map Char.toLower := by
    rw [← lastPart_map_toLower, h.letters, lastPart_map_toLower]
  rw [lowerExtension, extension_append h.stem_ne_dots hwritten h.isComponent, Text.lowerString,
    String.toList_ofList, Text.lower_congr hpart]

theorem mem_loweredExtensions_iff {extensions : List String} {text : List Char} :
    String.ofList (Text.lower text) ∈ loweredExtensions extensions ↔
      ∃ listed ∈ extensions, Text.lower listed.toList = Text.lower text := by
  simp only [loweredExtensions, List.mem_map, Text.lowerString, String.ofList_inj]

/-- The extensions of a draft without problems start with dots. -/
theorem Draft.startsWith_of_mem {d : Draft} (hcheck : d.check = .ok ())
    (he : e ∈ d.settings.sourceExtensions) : Text.startsWith "." e = true := by
  obtain ⟨items, hitems, hall⟩ := check_eq_ok_iff.1 hcheck .sourceExtensions
  change e ∈ (d .sourceExtensions).texts at he
  rw [Value.texts, hitems, Option.getD_some, List.mem_filterMap] at he
  obtain ⟨item, hitem, htext⟩ := he
  obtain ⟨text, rfl, hdot⟩ := hall item hitem
  cases htext
  exact hdot

/-- **A file that is named by an extension of the settings is a script file exactly if the last part
of that extension is an extension as well, but for its case.** The stem and the case of ASCII
letters make no difference. An extension with a single dot is its own last part, and so each file
that it names is a script file. -/
theorem isSourceName_iff_lastPart {d : Draft} (hcheck : d.check = .ok ())
    (he : e ∈ d.settings.sourceExtensions) (hname : IsNamed stem written e) :
    (isSourceName d.settings.sourceExtensions (stem ++ written) = true ↔
      ∃ listed ∈ d.settings.sourceExtensions,
        Text.lower listed.toList = Text.lower (lastPart e.toList)) ∧
    (e.toList.count '.' = 1 →
      isSourceName d.settings.sourceExtensions (stem ++ written) = true) := by
  have hdot := d.startsWith_of_mem hcheck he
  have hiff : isSourceName d.settings.sourceExtensions (stem ++ written) = true ↔
      ∃ listed ∈ d.settings.sourceExtensions,
        Text.lower listed.toList = Text.lower (lastPart e.toList) := by
    rw [isSourceName, List.contains_iff_mem, hname.lowerExtension_eq hdot,
      mem_loweredExtensions_iff]
  refine ⟨hiff, fun hcount => hiff.2 ⟨e, he, ?_⟩⟩
  obtain ⟨tail, htail⟩ := List.isPrefixOf_iff_prefix.1 hdot
  -- The one dot is the first character, so there is none in the tail.
  have hnone : '.' ∉ tail := by
    rw [← htail, List.count_append] at hcount
    exact List.count_eq_zero.1 (by simpa using hcount)
  have hpart : lastPart ([] ++ '.' :: tail) = '.' :: tail := lastPart_append hnone
  rw [← htail]
  exact congrArg Text.lower hpart.symm

/-- Settings by which only declaration files are script files. -/
def declarations : Draft
  | .sourceExtensions => .list [.text ".d.ts"]
  | .maxFileSize => .int 1
  | setting => setting.default

/-- No declaration file is a script file, since what follows its last dot is not an extension. -/
theorem isSourceName_declarations :
    declarations.check = .ok () ∧ ".d.ts" ∈ declarations.settings.sourceExtensions ∧
      IsNamed "a" ".D.ts" ".d.ts" ∧
      isSourceName declarations.settings.sourceExtensions ("a" ++ ".D.ts") = false := by
  have hcheck : declarations.check = .ok () := rfl
  have hlisted : declarations.settings.sourceExtensions = [".d.ts"] := rfl
  have he : ".d.ts" ∈ declarations.settings.sourceExtensions := List.mem_singleton_self _
  have hnamed : IsNamed "a" ".D.ts" ".d.ts" :=
    ⟨by decide, ⟨'a', by decide, by decide⟩, by decide⟩
  refine ⟨hcheck, he, hnamed, Bool.eq_false_iff.2 fun hsource => ?_⟩
  obtain ⟨listed, hmem, hlower⟩ := (isSourceName_iff_lastPart hcheck he hnamed).1.1 hsource
  rw [hlisted, List.mem_singleton] at hmem
  rw [hmem] at hlower
  exact absurd hlower (by decide)

end ScriptAudit
