import Mathlib.Data.List.DropRight

-- The methods of Python's `str` that the services call, on Lean strings.

namespace Text

-- `str.isspace` of one character.
def isSpace (c : Char) : Bool :=
  let code := c.toNat
  (9 ≤ code && code ≤ 13) || (28 ≤ code && code ≤ 32) || code == 0x85 || code == 0xA0 ||
    code == 0x1680 || (0x2000 ≤ code && code ≤ 0x200A) || code == 0x2028 || code == 0x2029 ||
    code == 0x202F || code == 0x205F || code == 0x3000

def strip (text : String) : String :=
  String.ofList ((text.toList.dropWhile isSpace).rdropWhile isSpace)

-- The text before the first separator, the separator, and the text after it;
-- without a separator the whole text and two empty strings.
def partition (sep : Char) (text : String) : String × String × String :=
  match text.toList.dropWhile (· ≠ sep) with
  | [] => (text, "", "")
  | _ :: tail =>
      (String.ofList (text.toList.takeWhile (· ≠ sep)), String.singleton sep, String.ofList tail)

-- `text.rsplit(sep, 1)[-1]`: the text after the last separator, or the whole text.
def afterLast (sep : Char) (text : String) : String :=
  String.ofList (text.toList.rtakeWhile (· ≠ sep))

def startsWith (text beginning : String) : Bool :=
  beginning.toList.isPrefixOf text.toList

-- The slice `text[:count]`.
def firstChars (text : String) (count : Nat) : String :=
  String.ofList (text.toList.take count)

def removePrefix (text beginning : String) : String :=
  if startsWith text beginning then String.ofList (text.toList.drop beginning.length) else text

theorem removePrefix_append (beginning rest : String) :
    removePrefix (beginning ++ rest) beginning = rest := by
  have hstart : startsWith (beginning ++ rest) beginning = true := by
    simp [startsWith, String.toList_append]
  have hdrop : (beginning ++ rest).toList.drop beginning.length = rest.toList := by
    rw [String.toList_append, ← String.length_toList, List.drop_left]
  rw [removePrefix, if_pos hstart, hdrop, String.ofList_toList]

theorem strip_eq_empty_iff (text : String) :
    strip text = "" ↔ ∀ c ∈ text.toList, isSpace c = true := by
  have hnil : strip text = "" ↔ (text.toList.dropWhile isSpace).rdropWhile isSpace = [] := by
    constructor
    · intro h
      have := congrArg String.toList h
      simpa only [strip, String.toList_ofList, String.toList_empty] using this
    · intro h
      simp only [strip, h, String.ofList_nil]
  rw [hnil, List.rdropWhile_eq_nil_iff]
  constructor
  · intro h c hc
    by_contra hspace
    -- a character that is no space stops the left scan, so it is still there
    have hne : text.toList.dropWhile isSpace ≠ [] := fun he =>
      hspace (List.dropWhile_eq_nil_iff.mp he c hc)
    obtain ⟨head, rest, he⟩ := List.exists_cons_of_ne_nil hne
    have hhead : isSpace head = false := by
      have := List.head?_dropWhile_not isSpace text.toList
      rw [he] at this
      simpa using this
    have := h head (by rw [he]; simp)
    rw [hhead] at this
    cases this
  · intro h c hc
    exact h c ((List.dropWhile_suffix isSpace).subset hc)

theorem strip_of_no_space (text : String) (h : ∀ c ∈ text.toList, isSpace c = false) :
    strip text = text := by
  have hleft : text.toList.dropWhile isSpace = text.toList := by
    cases hl : text.toList with
    | nil => rfl
    | cons head rest => simp [h head (by simp [hl])]
  have hright : text.toList.rdropWhile isSpace = text.toList := by
    rw [List.rdropWhile_eq_self_iff]
    intro hne
    simp [h _ (List.getLast_mem hne)]
  rw [strip, hleft, hright, String.ofList_toList]

theorem partition_append (sep : Char) (head tail : String) (h : sep ∉ head.toList) :
    partition sep (head ++ String.singleton sep ++ tail) = (head, String.singleton sep, tail) := by
  have hlist : (head ++ String.singleton sep ++ tail).toList =
      head.toList ++ sep :: tail.toList := by
    simp [String.toList_append]
  have hall : ∀ c ∈ head.toList, decide (c ≠ sep) = true := fun c hc =>
    decide_eq_true fun he => h (he ▸ hc)
  have hdrop : (head.toList ++ sep :: tail.toList).dropWhile (· ≠ sep) = sep :: tail.toList := by
    rw [List.dropWhile_append_of_pos hall]
    simp
  have htake : (head.toList ++ sep :: tail.toList).takeWhile (· ≠ sep) = head.toList := by
    rw [List.takeWhile_append_of_pos hall]
    simp
  simp only [partition, hlist, hdrop, htake, String.ofList_toList]

-- The text itself is put together again from what it was split into.
theorem partition_eq {sep : Char} {text head tail : String}
    (h : partition sep text = (head, String.singleton sep, tail)) :
    text = head ++ String.singleton sep ++ tail := by
  have hsplit : text.toList.takeWhile (· ≠ sep) ++ text.toList.dropWhile (· ≠ sep) =
      text.toList := List.takeWhile_append_dropWhile
  unfold partition at h
  split at h
  · have hempty := congrArg (fun parts => parts.2.1.toList) h
    simp at hempty
  · next c rest hdrop =>
      have hc : c = sep := by
        have := List.head?_dropWhile_not (· ≠ sep) text.toList
        rw [hdrop] at this
        simpa using this
      cases h
      rw [hdrop, hc] at hsplit
      apply String.toList_injective
      rw [String.toList_append, String.toList_append, String.toList_ofList, String.toList_ofList,
        String.toList_singleton, List.append_assoc]
      exact hsplit.symm

end Text
