import DebugShell.Proofs.Marks
import DebugShell.Proofs.Tokens

/-!
# Marking a name

A point belongs to the names of expressions, but not to words. So a name is marked part by part
(`markWords_joined`), and a register name in it counts if it stands between points. In front of the
first point it gets a mark for the whole name (`markWords_name`), which is read as a register of
that name. Behind a point its mark cuts the name in two (`infix_of_divided`).

A plain name has no points, so it is one word, and it is marked as a whole or not at all.
-/

namespace DebugShell.Expression

open Registers (markWords searchNames Words NoWord Started)

/-! ## Names and their parts -/

/-- The parts of a name between its points. -/
def parts (name : String) : List String :=
  (name.toList.splitOn '.').map String.ofList

/-- Whether a word is the name of a register: one of those listed, or one that every host
understands. -/
def isRegister (listed : List String) (word : String) : Bool :=
  listed.contains word || Registers.generic.contains word

/-- A plain name: one without points. -/
def IsPlain (name : String) : Prop :=
  IsName name.toList ∧ '.' ∉ name.toList

/-- `Led listed name`: a register name stands before the first point of the name. -/
def Led (listed : List String) (name : String) : Prop :=
  '.' ∈ name.toList ∧ (parts name).head?.any (isRegister listed) = true

/-- `Divided listed name`: a register name stands behind a point of the name, up to the next one or
the end. -/
def Divided (listed : List String) (name : String) : Prop :=
  ∃ part ∈ (parts name).tail, isRegister listed part = true

instance (name : String) : Decidable (IsPlain name) :=
  inferInstanceAs (Decidable (IsName name.toList ∧ '.' ∉ name.toList))

instance (listed : List String) (name : String) : Decidable (Led listed name) :=
  inferInstanceAs (Decidable ('.' ∈ name.toList ∧
    (parts name).head?.any (isRegister listed) = true))

instance (listed : List String) (name : String) : Decidable (Divided listed name) :=
  inferInstanceAs (Decidable (∃ part ∈ (parts name).tail, isRegister listed part = true))

/-! ## Register names are words -/

/-- The names that are searched for, as lists of characters. -/
def registerWords (listed : List String) : List (List Char) :=
  (searchNames listed).map String.toList

/-- The characters of names are word characters, but for the point. -/
theorem isWordChar_of_isNameChar {c : Char} (h : isNameChar c = true) (hc : c ≠ '.') :
    Text.isWordChar c = true := by
  have hascii : c.toNat < 128 := by
    rw [isNameChar_iff, isNameStart_iff] at h
    rcases h with (h | h | h) | h | rfl
    · omega
    · omega
    · omega
    · omega
    · exact absurd rfl hc
  rw [Text.isWordChar, if_pos hascii, Text.isAsciiWordChar]
  rw [isNameChar, Bool.or_eq_true, beq_iff_eq] at h
  exact h.resolve_right hc

/-- No break is a word character or a mark. -/
theorem open_of_mem_breaks {c : Char} (h : c ∈ breaks) :
    Text.isWordChar c = false ∧ c ≠ '$' := by
  have hall : breaks.all (fun d => !Text.isWordChar d && d != '$') = true := by decide
  have hc := List.all_eq_true.1 hall c h
  rwa [Bool.and_eq_true, Bool.not_eq_true', bne_iff_ne] at hc

section Plain

variable {listed : List String} (hplain : ∀ name ∈ listed, IsPlain name)

include hplain

/-- The names of registers are plain. -/
theorem isPlain_of_isRegister {word : String} (h : isRegister listed word = true) :
    IsPlain word := by
  rw [isRegister, Bool.or_eq_true, List.contains_iff_mem, List.contains_iff_mem] at h
  rcases h with h | h
  · exact hplain word h
  · have hgeneric : word = "pc" ∨ word = "sp" := by simpa [Registers.generic] using h
    rcases hgeneric with rfl | rfl <;> decide

/-- The names that are searched for are those of registers. -/
theorem mem_registerWords (word : List Char) :
    word ∈ registerWords listed ↔ isRegister listed (String.ofList word) = true := by
  have hsearch : word ∈ registerWords listed ↔ String.ofList word ∈ searchNames listed := by
    rw [registerWords, List.mem_map]
    constructor
    · rintro ⟨name, hname, rfl⟩
      rwa [String.ofList_toList]
    · intro h
      exact ⟨String.ofList word, h, String.toList_ofList⟩
  -- A plain name has no marks in front of it that could be taken off.
  have hunmarked : ∀ name ∈ listed, Registers.unmarked name = name ∧ name ≠ "" := by
    intro name hname
    obtain ⟨hisname, -⟩ := hplain name hname
    obtain ⟨first, rest, hchars⟩ := hisname.exists_cons
    rw [hchars] at hisname
    have hfirst : ¬(first == '$') = true := by
      rw [beq_iff_eq]
      rintro rfl
      exact absurd ((isName_cons_iff _ _).1 hisname).1 (by decide)
    have hkept : (first :: rest).dropWhile (· == '$') = first :: rest :=
      List.dropWhile_cons_of_neg hfirst
    constructor
    · rw [Registers.unmarked, hchars, hkept, ← hchars, String.ofList_toList]
    · rintro rfl
      cases hchars
  rw [hsearch, Registers.mem_searchNames, isRegister, Bool.or_eq_true, List.contains_iff_mem,
    List.contains_iff_mem]
  refine or_congr_left ⟨?_, ?_⟩
  · rintro ⟨-, name, hname, hword⟩
    rwa [← hword, (hunmarked name hname).1]
  · intro h
    exact ⟨(hunmarked _ h).2, _, h, (hunmarked _ h).1⟩

/-- The names that are searched for are words. -/
theorem words_registerWords : Words (registerWords listed) := by
  intro word hword
  obtain ⟨hname, hpoint⟩ := isPlain_of_isRegister hplain ((mem_registerWords hplain word).1 hword)
  rw [String.toList_ofList] at hname hpoint
  constructor
  · rintro rfl
    exact hname
  · intro c hc
    exact isWordChar_of_isNameChar (hname.isNameChar c hc) fun h => hpoint (h ▸ hc)

/-- No name that is searched for is empty. -/
theorem nil_not_mem_registerWords : [] ∉ registerWords listed :=
  fun h => (words_registerWords hplain [] h).1 rfl

end Plain

/-! ## Marking a name -/

/-- A name is its first part with a point and a part for each of the others, and no part has a
point. -/
theorem exists_splitOn (cs : List Char) : ∃ first others, cs.splitOn '.' = first :: others ∧
    cs = first ++ others.flatMap ('.' :: ·) ∧ ∀ part ∈ first :: others, '.' ∉ part := by
  induction cs with
  | nil => exact ⟨[], [], rfl, rfl, by simp⟩
  | cons c cs ih =>
    obtain ⟨first, others, hsplit, hjoin, hpoint⟩ := ih
    rw [List.splitOn] at hsplit ⊢
    rw [List.splitOnP_cons_eq_if_modifyHead, hsplit]
    by_cases hc : c = '.'
    · -- A point in front ends an empty first part.
      subst hc
      rw [if_pos (by decide)]
      refine ⟨[], first :: others, rfl, ?_, ?_⟩
      · rw [List.flatMap_cons, List.nil_append, List.cons_append, ← hjoin]
      · intro part hpart
        rcases List.mem_cons.1 hpart with rfl | hpart
        · exact List.not_mem_nil
        · exact hpoint part hpart
    · -- Any other character belongs to the first part.
      rw [if_neg (by simpa using hc)]
      refine ⟨c :: first, others, rfl, ?_, ?_⟩
      · rw [List.cons_append, ← hjoin]
      · intro part hpart
        rcases List.mem_cons.1 hpart with rfl | hpart
        · rw [List.mem_cons, not_or]
          exact ⟨Ne.symm hc, hpoint first List.mem_cons_self⟩
        · exact hpoint part (List.mem_cons_of_mem first hpart)

/-- A name is marked part by part. -/
theorem markWords_joined {words : List (List Char)} (hempty : [] ∉ words) (before : Option Char)
    (first : List Char) (others : List (List Char)) :
    markWords words before (first ++ others.flatMap ('.' :: ·)) =
      markWords words before first ++
        others.flatMap fun part => '.' :: markWords words none part := by
  induction others generalizing before first with
  | nil => rw [List.flatMap_nil, List.flatMap_nil, List.append_nil, List.append_nil]
  | cons part others ih =>
    have hnoword : NoWord ('.' :: (part ++ others.flatMap ('.' :: ·))) := by
      have hpoint : Text.isWordChar '.' = false := by decide
      exact hpoint
    rw [List.flatMap_cons, List.flatMap_cons, List.cons_append,
      Registers.markWords_append hempty before first hnoword,
      Registers.markWords_cons_of_open hempty (by decide) (by decide), ih, List.cons_append]

/-- The parts of a name are words. -/
theorem exists_parts {cs : List Char} (hchars : ∀ c ∈ cs, isNameChar c = true) :
    ∃ first others, parts (String.ofList cs) = String.ofList first :: others.map String.ofList ∧
      cs = first ++ others.flatMap ('.' :: ·) ∧
      ∀ part ∈ first :: others, ∀ c ∈ part, Text.isWordChar c = true := by
  obtain ⟨first, others, hsplit, hjoin, hpoint⟩ := exists_splitOn cs
  refine ⟨first, others, ?_, hjoin, ?_⟩
  · rw [parts, String.toList_ofList, hsplit, List.map_cons]
  · intro part hpart c hc
    have hmem : c ∈ cs := by
      rw [hjoin, List.mem_append, List.mem_flatMap]
      rcases List.mem_cons.1 hpart with rfl | hpart
      · exact .inl hc
      · exact .inr ⟨part, hpart, List.mem_cons_of_mem '.' hc⟩
    exact isWordChar_of_isNameChar (hchars c hmem) fun h => hpoint part hpart (h ▸ hc)

/-- The register names behind the points of a name, part by part. -/
theorem not_divided_iff {listed : List String} {first : List Char} {others : List (List Char)}
    {name : String}
    (hparts : parts name = String.ofList first :: others.map String.ofList) :
    ¬Divided listed name ↔ ∀ part ∈ others, ¬isRegister listed (String.ofList part) = true := by
  rw [Divided, hparts, List.tail_cons]
  simp only [List.mem_map, exists_exists_and_eq_and, not_exists, not_and]

section Marked

variable {listed : List String} (hplain : ∀ name ∈ listed, IsPlain name)

include hplain

/-- A part of a name is marked if it is the name of a register. -/
theorem markWords_part {part : List Char} (hpart : ∀ c ∈ part, Text.isWordChar c = true) :
    markWords (registerWords listed) none part =
      if isRegister listed (String.ofList part) = true then '$' :: part else part := by
  rw [Registers.markWords_word (nil_not_mem_registerWords hplain) hpart]
  exact if_congr (mem_registerWords hplain part) rfl rfl

/-- The later parts of an undivided name are copied. -/
theorem markWords_others {others : List (List Char)}
    (hwords : ∀ part ∈ others, ∀ c ∈ part, Text.isWordChar c = true)
    (hnone : ∀ part ∈ others, ¬isRegister listed (String.ofList part) = true) :
    (others.flatMap fun part => '.' :: markWords (registerWords listed) none part) =
      others.flatMap ('.' :: ·) := by
  rw [List.flatMap_def, List.flatMap_def]
  refine congrArg List.flatten (List.map_congr_left fun part hpart => ?_)
  rw [markWords_part hplain (hwords part hpart), if_neg (hnone part hpart)]

/-- Only the first part of an undivided name can be marked. -/
theorem exists_first_part {cs : List Char} (hchars : ∀ c ∈ cs, isNameChar c = true)
    (hundivided : ¬Divided listed (String.ofList cs)) :
    ∃ first later, (parts (String.ofList cs)).head? = some (String.ofList first) ∧
      cs = first ++ later ∧ (∀ c ∈ first, Text.isWordChar c = true) ∧
      ∀ before, markWords (registerWords listed) before cs =
        markWords (registerWords listed) before first ++ later := by
  obtain ⟨first, others, hparts, hjoin, hwords⟩ := exists_parts hchars
  have hothers := markWords_others hplain
    (fun part hpart => hwords part (List.mem_cons_of_mem first hpart))
    ((not_divided_iff hparts).1 hundivided)
  refine ⟨first, others.flatMap ('.' :: ·), ?_, hjoin, hwords first List.mem_cons_self, ?_⟩
  · rw [hparts, List.head?_cons]
  · intro before
    rw [hjoin, markWords_joined (nil_not_mem_registerWords hplain), hothers]

/-- An undivided name is marked if it starts with the name of a register. -/
theorem markWords_name {cs : List Char} (hchars : ∀ c ∈ cs, isNameChar c = true)
    (hundivided : ¬Divided listed (String.ofList cs)) :
    markWords (registerWords listed) none cs =
      if (parts (String.ofList cs)).head?.any (isRegister listed) = true then '$' :: cs
      else cs := by
  obtain ⟨first, later, hhead, hjoin, hword, hmarked⟩ := exists_first_part hplain hchars hundivided
  rw [hmarked, markWords_part hplain hword, hhead, Option.any_some]
  split_ifs
  · rw [List.cons_append, ← hjoin]
  · rw [← hjoin]

/-- Behind a mark an undivided name is copied. -/
theorem markWords_marked_name {cs : List Char} (hchars : ∀ c ∈ cs, isNameChar c = true)
    (hundivided : ¬Divided listed (String.ofList cs)) :
    markWords (registerWords listed) (some '$') cs = cs := by
  obtain ⟨first, later, -, hjoin, hword, hmarked⟩ := exists_first_part hplain hchars hundivided
  have hstarted : Started (some '$') := .inr rfl
  have hfirst : markWords (registerWords listed) (some '$') (first ++ []) = first ++ [] :=
    Registers.markWords_started hstarted hword []
  rw [List.append_nil] at hfirst
  rw [hmarked, hfirst, ← hjoin]

/-- In a divided name a mark is put right behind a point. -/
theorem infix_of_divided {cs : List Char} (hchars : ∀ c ∈ cs, isNameChar c = true)
    (hdivided : Divided listed (String.ofList cs)) (before : Option Char) :
    ['.', '$'] <:+: markWords (registerWords listed) before cs := by
  obtain ⟨first, others, hparts, hjoin, hwords⟩ := exists_parts hchars
  obtain ⟨part, hpart, hregister⟩ : ∃ part ∈ others,
      isRegister listed (String.ofList part) = true := by
    by_contra hnone
    push Not at hnone
    exact (not_divided_iff hparts).2 hnone hdivided
  -- The part gets a mark, and a point stands in front of it.
  have hmarked := markWords_part hplain (hwords part (List.mem_cons_of_mem first hpart))
  rw [if_pos hregister] at hmarked
  obtain ⟨earlier, later, hothers⟩ := List.append_of_mem hpart
  rw [hjoin, markWords_joined (nil_not_mem_registerWords hplain), hothers, List.flatMap_append,
    List.flatMap_cons, hmarked]
  refine List.infix_append_of_infix_right (List.infix_append_of_infix_right ?_)
  exact ⟨[], part ++ _, rfl⟩

end Marked

/-! ## The first part of a name -/

/-- A name without points is its own first part. -/
theorem head?_parts {name : String} (h : '.' ∉ name.toList) : (parts name).head? = some name := by
  obtain ⟨first, others, hsplit, hjoin, -⟩ := exists_splitOn name.toList
  have hfirst : first = name.toList := by
    cases others with
    | nil => rw [hjoin, List.flatMap_nil, List.append_nil]
    | cons part others =>
      rw [hjoin] at h
      exact absurd (List.mem_append_right _ List.mem_cons_self) h
  rw [parts, hsplit, List.map_cons, List.head?_cons, hfirst, String.ofList_toList]

/-- A name that is not led by that of a register is one exactly if its first part is. -/
theorem isRegister_eq_of_not_led {listed : List String} (hplain : ∀ name ∈ listed, IsPlain name)
    {name : String} (h : ¬Led listed name) :
    isRegister listed name = (parts name).head?.any (isRegister listed) := by
  by_cases hpoint : '.' ∈ name.toList
  · have hfirst : (parts name).head?.any (isRegister listed) = false :=
      Bool.eq_false_iff.2 fun hany => h ⟨hpoint, hany⟩
    have hname : isRegister listed name = false :=
      Bool.eq_false_iff.2 fun hregister => (isPlain_of_isRegister hplain hregister).2 hpoint
    rw [hfirst, hname]
  · rw [head?_parts hpoint, Option.any_some]

end DebugShell.Expression
