import RunningBalance.Proofs.Timestamp.Reading

/-!
# No timestamp has two meanings

The layouts overlap: some texts match more than one of them. What a text can start with if a list of
items matches it is known without reading it (`starts`), so two lists can be compared item by item
until what comes next tells them apart (`coherent`); a text that matches both lists then has the
same numbers in both (`eq_of_coherent`). All pairs of layouts pass the comparison. So the layouts
that accept a text agree on its instant, and the order in which they are tried does not matter
(`layouts_agree`).
-/

set_option autoImplicit false
set_option relaxedAutoImplicit false

namespace RunningBalance.Timestamp

/-! ### What comes next in a text -/

/-- What comes next in a text, after any blanks: nothing, some digit, or another character. -/
inductive Lookahead
  | finished
  | digit
  | other (c : Char)
  deriving DecidableEq

def Lookahead.ofChar (c : Char) : Lookahead :=
  if c.isDigit then .digit else .other c

def lookahead (text : List Char) : Lookahead :=
  match Text.trimStart text with
  | [] => .finished
  | c :: _ => .ofChar c

/-- The signs of an offset. -/
def signs : List Lookahead :=
  [.other '+', .other '-', .other '\u2212']

/-- What a text can start with if the items match it to its end. -/
def starts : List Item → List Lookahead
  | [] => [.finished]
  | .number .year :: _ => [.digit, .other '+', .other '-']
  | .number _ :: _ => [.digit]
  | .digits _ 0 :: items => starts items
  | .digits _ (_ + 1) :: _ => [.digit]
  | .oneOf choices :: items =>
    choices.flatMap fun c ↦ if Text.isBlank c then starts items else [.ofChar c]
  | .blanks :: items => starts items
  | .fraction :: items => .other '.' :: starts items
  | .offset :: _ => signs
  | .zone :: _ => .other 'Z' :: .other 'z' :: signs

section Lookahead

variable {text rest : List Char} {c : Char}

theorem trimStart_cons (hblank : Text.isBlank c = false) :
    Text.trimStart (c :: text) = c :: text :=
  (Text.startsOff_cons.2 hblank).dropWhile

theorem lookahead_cons (hblank : Text.isBlank c = false) :
    lookahead (c :: text) = .ofChar c := by
  rw [lookahead, trimStart_cons hblank]

theorem lookahead_cons_of_isBlank (hblank : Text.isBlank c = true) :
    lookahead (c :: text) = lookahead text := by
  rw [lookahead, lookahead, Text.trimStart, List.dropWhile_cons_of_pos hblank, Text.trimStart]

theorem lookahead_trimStart : lookahead (Text.trimStart text) = lookahead text := by
  have htrim : Text.trimStart (Text.trimStart text) = Text.trimStart text :=
    Text.startsOff_dropWhile.dropWhile
  rw [lookahead, lookahead, htrim]

theorem isBlank_of_isDigit (hdigit : c.isDigit = true) : Text.isBlank c = false := by
  have hrange : 48 ≤ c.toNat ∧ c.toNat ≤ 57 := Char.isDigit_iff_toNat.1 hdigit
  exact Text.isBlank_eq_false_of_visible (by omega) (by omega)

theorem lookahead_of_isDigit (hdigit : c.isDigit = true) : lookahead (c :: text) = .digit := by
  rw [lookahead_cons (isBlank_of_isDigit hdigit), Lookahead.ofChar, if_pos hdigit]

theorem lookahead_of_readSign? {negative : Bool} (h : readSign? text = some (negative, rest)) :
    lookahead text ∈ signs := by
  obtain ⟨c, rfl, hc⟩ := readSign?_eq_some_iff.1 h
  obtain ⟨rfl, -⟩ | ⟨rfl | rfl, -⟩ := hc
  all_goals
    rw [lookahead_cons (by decide)]
    decide

theorem lookahead_of_fixedDigits? {width number : ℕ}
    (h : fixedDigits? (width + 1) text = some (number, rest)) : lookahead text = .digit := by
  obtain ⟨digits, rfl, hlength, hdigits, -⟩ := fixedDigits?_eq_some_iff.1 h
  obtain ⟨c, later, rfl⟩ := List.exists_cons_of_length_eq_add_one hlength
  exact lookahead_of_isDigit (hdigits c List.mem_cons_self)

theorem lookahead_of_offset {parts : Parts} {result : Parts × List Char}
    (h : readItem? parts text .offset = some result) : lookahead text ∈ signs := by
  obtain ⟨⟨offset, _⟩, hread, -⟩ := Option.map_eq_some_iff.1 h
  obtain ⟨negative, afterSign, -, -, -, -, hsign, -⟩ := readOffset?_eq_some_iff.1 hread
  rw [← lookahead_trimStart]
  exact lookahead_of_readSign? hsign

/-- A text that items match to its end starts with something that they can start with. -/
theorem lookahead_mem_starts {items : List Item} {parts parts' : Parts}
    (h : readItems? items parts text = some (parts', [])) : lookahead text ∈ starts items := by
  induction items generalizing parts text with
  | nil =>
    cases h
    decide
  | cons item items ih =>
    obtain ⟨next, left, hitem, hitems⟩ := readItems?_cons_eq_some_iff.1 h
    have hleft := ih hitems
    cases item with
    | number field =>
      obtain ⟨⟨n, _⟩, hread, -⟩ := Option.map_eq_some_iff.1 hitem
      obtain ⟨c, later, htext, hc⟩ := exists_of_readNumber? hread
      rw [← lookahead_trimStart, htext]
      rcases hc with hdigit | ⟨rfl, rfl | rfl⟩
      · rw [lookahead_of_isDigit hdigit]
        cases field <;> exact List.mem_cons_self
      all_goals
        rw [lookahead_cons (by decide)]
        change _ ∈ [Lookahead.digit, .other '+', .other '-']
        decide
    | digits field width =>
      obtain ⟨⟨n, _⟩, hread, heq⟩ := Option.map_eq_some_iff.1 hitem
      cases heq
      cases width with
      | zero =>
        obtain ⟨digits, rfl, hlength, -⟩ := fixedDigits?_eq_some_iff.1 hread
        rwa [List.length_eq_zero_iff.1 hlength, starts]
      | succ width =>
        rw [lookahead_of_fixedDigits? hread]
        exact List.mem_singleton_self _
    | oneOf choices =>
      cases text with
      | nil => cases hitem
      | cons c later =>
        simp only [readItem?, Option.ite_none_right_eq_some] at hitem
        obtain ⟨hmem, heq⟩ := hitem
        cases heq
        rw [starts, List.mem_flatMap]
        refine ⟨c, by simpa using hmem, ?_⟩
        cases hblank : Text.isBlank c with
        | true => simpa [lookahead_cons_of_isBlank hblank] using hleft
        | false => simp [lookahead_cons hblank]
    | blanks =>
      cases hitem
      rwa [lookahead_trimStart] at hleft
    | fraction =>
      rw [starts, List.mem_cons]
      cases text with
      | nil =>
        cases hitem
        exact .inr hleft
      | cons c later =>
        by_cases hpoint : c = '.'
        · subst hpoint
          exact .inl (lookahead_cons (by decide))
        · rw [readItem?_fraction_of_startsOff (Text.startsOff_cons.2 (decide_eq_false hpoint))]
            at hitem
          cases hitem
          exact .inr hleft
    | offset => exact lookahead_of_offset hitem
    | zone =>
      rw [starts, List.mem_cons, List.mem_cons]
      rcases readItem?_zone_eq_some_iff.1 hitem with ⟨c, rfl | rfl, rfl, -⟩ | ⟨offset, hread, -⟩
      · exact .inl (lookahead_cons (by decide))
      · exact .inr (.inl (lookahead_cons (by decide)))
      · obtain ⟨negative, afterSign, -, -, -, -, hsign, -⟩ := readOffset?_eq_some_iff.1 hread
        exact .inr (.inr (lookahead_of_readSign? hsign))

end Lookahead

/-! ### Comparing two lists of items -/

/-- Whether two items leave the same, with the same numbers, of any text that both can read. -/
def Item.agrees : Item → Item → Bool
  | .digits field width, .number other => decide (field = other) && decide (width = field.width)
  | .oneOf _, .oneOf _ => true
  | .zone, .offset => true
  | .zone, .oneOf choices => choices.all fun c ↦ c = 'Z' || c = 'z'
  | item, other => decide (item = other)

/-- Whether the items start with a digit, with no blanks before it. -/
def isFirm : List Item → Bool
  | .digits _ (_ + 1) :: _ => true
  | _ => false

/-- Whether the first items of two lists leave the same, with the same numbers, of any text that
both lists match. A blank that one list asks for is among the blanks that the other skips. -/
def inStep : List Item → List Item → Bool
  | .oneOf choices :: items, .blanks :: others =>
    isFirm items && choices.all fun c ↦ Text.isBlank c || decide (.ofChar c ∉ starts others)
  | item :: _, other :: _ => item.agrees other
  | _, _ => false

/-- Whether the items can be read in step until what comes next tells them apart. -/
def coherent : List Item → List Item → Bool
  | [], others => others.isEmpty || decide (.finished ∉ starts others)
  | item :: items, others =>
    decide (∀ next ∈ starts (item :: items), next ∉ starts others) ||
      inStep (item :: items) others && coherent items others.tail

section Comparison

variable {parts next next' : Parts} {text rest rest' : List Char}

/-- A number of the full width of its field is read alike with and without leave to be shorter. -/
theorem readNumber?_of_fixedDigits? {field : Field} {number : ℕ}
    (h : fixedDigits? field.width text = some (number, rest)) :
    Text.trimStart text = text ∧ readNumber? field text = some ((number : ℤ), rest) := by
  obtain ⟨digits, rfl, hlength, hdigits, rfl⟩ := fixedDigits?_eq_some_iff.1 h
  have hfew : fewDigits? field.width (digits ++ rest) = some (digits, rest) := by
    have hne : digits ≠ [] := by
      rintro rfl
      cases field <;> cases hlength
    refine fewDigits?_eq_some_iff.2 ⟨hne, ?_, List.drop_left.symm⟩
    rw [← hlength, List.take_left, List.takeWhile_eq_self_iff.2 hdigits]
  cases digits with
  | nil => cases field <;> cases hlength
  | cons c later =>
    have hdigit := hdigits c List.mem_cons_self
    refine ⟨trimStart_cons (isBlank_of_isDigit hdigit), ?_⟩
    have hunsigned : field = .year → c ≠ '-' ∧ c ≠ '+' := by
      rintro -
      constructor <;> rintro rfl <;> cases hdigit
    rw [List.cons_append, readNumber?_eq_fewDigits? hunsigned, ← List.cons_append, hfew]
    rfl

/-- An offset with one colon is read alike with and without leave for blanks and more colons. -/
theorem readItem?_offset_of_after? {offset : ℤ}
    (h : readOffset? (Text.after? [':']) text = some (offset, rest)) :
    readItem? parts text .offset = some ({ parts with offset }, rest) := by
  obtain ⟨negative, afterSign, hours, afterHours, beforeMinutes, minutes, hsign, hhours, hafter,
    hminutes, hoffset⟩ := readOffset?_eq_some_iff.1 h
  have htrim : Text.trimStart text = text := by
    obtain ⟨c, rfl, ⟨rfl, -⟩ | ⟨rfl | rfl, -⟩⟩ := readSign?_eq_some_iff.1 hsign
    all_goals exact trimStart_cons (by decide)
  have hcolon : afterHours.dropWhile (fun c ↦ c = ':' || Text.isBlank c) = beforeMinutes := by
    obtain ⟨digits, rfl, hlength, hdigits, -⟩ := fixedDigits?_eq_some_iff.1 hminutes
    obtain ⟨c, later, rfl⟩ := List.exists_cons_of_length_eq_add_one hlength
    have hdigit := hdigits c List.mem_cons_self
    have hne : c ≠ ':' := by
      rintro rfl
      cases hdigit
    cases afterHours with
    | nil => cases hafter
    | cons d afterColon =>
      simp only [Text.after?, Option.ite_none_right_eq_some, Option.some.injEq] at hafter
      obtain ⟨rfl, rfl⟩ := hafter
      simp [hne, isBlank_of_isDigit hdigit]
  refine Option.map_eq_some_iff.2 ⟨(offset, rest), ?_, rfl⟩
  rw [htrim]
  exact readOffset?_eq_some_iff.2 ⟨negative, afterSign, hours, afterHours, beforeMinutes, minutes,
    hsign, hhours, congrArg some hcolon, hminutes, hoffset⟩

/-- Items that agree leave the same, with the same numbers, of a text that both can read. -/
theorem eq_of_agrees {item other : Item} (h : item.agrees other = true)
    (hitem : readItem? parts text item = some (next, rest))
    (hother : readItem? parts text other = some (next', rest')) :
    next = next' ∧ rest = rest' := by
  unfold Item.agrees at h
  split at h
  · rw [Bool.and_eq_true, decide_eq_true_eq, decide_eq_true_eq] at h
    obtain ⟨rfl, rfl⟩ := h
    obtain ⟨⟨n, _⟩, hread, heq⟩ := Option.map_eq_some_iff.1 hitem
    cases heq
    obtain ⟨htrim, hnumber⟩ := readNumber?_of_fixedDigits? hread
    rw [readItem?, htrim, hnumber] at hother
    cases hother
    exact ⟨rfl, rfl⟩
  · cases text with
    | nil => cases hitem
    | cons c later =>
      simp only [readItem?, Option.ite_none_right_eq_some] at hitem hother
      cases hitem.2
      cases hother.2
      exact ⟨rfl, rfl⟩
  · rcases readItem?_zone_eq_some_iff.1 hitem with ⟨c, hc, rfl, -⟩ | ⟨offset, hread, rfl⟩
    · have hsign := lookahead_of_offset hother
      rcases hc with rfl | rfl <;> exact absurd hsign (by rw [lookahead_cons] <;> decide)
    · rw [readItem?_offset_of_after? hread] at hother
      cases hother
      exact ⟨rfl, rfl⟩
  · next choices =>
    cases text with
    | nil => cases hother
    | cons c later =>
      simp only [readItem?, Option.ite_none_right_eq_some] at hother
      obtain ⟨hmem, heq⟩ := hother
      cases heq
      have hz : c = 'Z' ∨ c = 'z' := by
        simpa using List.all_eq_true.1 h c (by simpa using hmem)
      rcases hz with rfl | rfl <;> cases hitem <;> exact ⟨rfl, rfl⟩
  · rw [decide_eq_true_eq] at h
    subst h
    rw [hitem] at hother
    cases hother
    exact ⟨rfl, rfl⟩

/-- Nothing blank stands before firm items. -/
theorem trimStart_of_isFirm {items : List Item} {result : Parts × List Char}
    (h : isFirm items = true) (hitems : readItems? items parts text = some result) :
    Text.trimStart text = text := by
  unfold isFirm at h
  split at h
  · obtain ⟨read, left, hitem, -⟩ := readItems?_cons_eq_some_iff.1 hitems
    obtain ⟨⟨n, _⟩, hread, -⟩ := Option.map_eq_some_iff.1 hitem
    obtain ⟨digits, rfl, hlength, hdigits, -⟩ := fixedDigits?_eq_some_iff.1 hread
    obtain ⟨c, later, rfl⟩ := List.exists_cons_of_length_eq_add_one hlength
    exact trimStart_cons (isBlank_of_isDigit (hdigits c List.mem_cons_self))
  · cases h

/-- The first items of two lists in step leave the same, with the same numbers, of a text that both
lists match. -/
theorem eq_of_inStep {item other : Item} {items others : List Item} {last last' : Parts}
    (h : inStep (item :: items) (other :: others) = true)
    (hitem : readItem? parts text item = some (next, rest))
    (hitems : readItems? items next rest = some (last, []))
    (hother : readItem? parts text other = some (next', rest'))
    (hothers : readItems? others next' rest' = some (last', [])) :
    next = next' ∧ rest = rest' := by
  unfold inStep at h
  split at h
  · next choices items _ heq heq' =>
    cases heq
    cases heq'
    rw [Bool.and_eq_true, List.all_eq_true] at h
    obtain ⟨hfirm, hchoices⟩ := h
    cases hother
    cases text with
    | nil => cases hitem
    | cons c later =>
      simp only [readItem?, Option.ite_none_right_eq_some] at hitem
      obtain ⟨hmem, heq⟩ := hitem
      cases heq
      refine ⟨rfl, ?_⟩
      cases hblank : Text.isBlank c with
      | true =>
        rw [Text.trimStart, List.dropWhile_cons_of_pos hblank]
        exact (trimStart_of_isFirm hfirm hitems).symm
      | false =>
        -- The other list would have to go on with a character it cannot start with.
        have hstart := lookahead_mem_starts hothers
        rw [lookahead_trimStart, lookahead_cons hblank] at hstart
        have hchoice := hchoices c (by simpa using hmem)
        simp [hblank, hstart] at hchoice
  · next heq heq' =>
    cases heq
    cases heq'
    exact eq_of_agrees h hitem hother
  · cases h

/-- A text that two coherent lists of items match has the same numbers in both. -/
theorem eq_of_coherent {items others : List Item} (h : coherent items others = true)
    (hitems : readItems? items parts text = some (next, []))
    (hothers : readItems? others parts text = some (next', [])) : next = next' := by
  have hstart := lookahead_mem_starts hitems
  have hstart' := lookahead_mem_starts hothers
  induction items generalizing others parts text with
  | nil =>
    cases hitems
    rw [coherent, Bool.or_eq_true, decide_eq_true_eq] at h
    rcases h with hempty | hfinished
    · rw [List.isEmpty_iff.1 hempty] at hothers
      cases hothers
      rfl
    · exact absurd hstart' hfinished
  | cons item items ih =>
    rw [coherent, Bool.or_eq_true, Bool.and_eq_true, decide_eq_true_eq] at h
    rcases h with hdisjoint | ⟨hstep, hrest⟩
    · exact absurd hstart' (hdisjoint _ hstart)
    · cases others with
      | nil => cases item <;> cases hstep
      | cons other others =>
        obtain ⟨read, left, hitem, hitems⟩ := readItems?_cons_eq_some_iff.1 hitems
        obtain ⟨read', left', hother, hothers⟩ := readItems?_cons_eq_some_iff.1 hothers
        obtain ⟨rfl, rfl⟩ := eq_of_inStep hstep hitem hitems hother hothers
        exact ih hrest hitems hothers (lookahead_mem_starts hitems) (lookahead_mem_starts hothers)

end Comparison

/-! ### The layouts -/

/-- The lists of items that a text may match in a layout, the letter Z among the items. -/
def Layout.spellings (layout : Layout) : List (List Item) :=
  if layout.zulu then [layout.items, layout.items ++ [.oneOf ['Z', 'z']]] else [layout.items]

/-- Any two spellings of layouts are coherent. -/
theorem pairwise_coherent : (layouts.flatMap Layout.spellings).Pairwise (coherent · · = true) := by
  decide

section Layouts

variable {layout other : Layout} {parts parts' : Parts} {text : List Char}

theorem ends_zulu {z : Char} (hz : z = 'Z' ∨ z = 'z') : Ends [z] := by
  rcases hz with rfl | rfl <;> exact ends_cons (by decide) (by decide) (by decide)

/-- Dropping a letter Z from the end of a text leaves it as it is, or the letter is there. -/
theorem dropZulu_eq_or (text : List Char) :
    dropZulu text = text ∨ ∃ z, (z = 'Z' ∨ z = 'z') ∧ text = dropZulu text ++ [z] := by
  have hreverse {z : Char} {rest : List Char} (heq : text.reverse = z :: rest) :
      text = rest.reverse ++ [z] := by
    rw [← List.reverse_cons, ← heq, List.reverse_reverse]
  unfold dropZulu
  split
  · next heq => exact .inr ⟨'Z', .inl rfl, hreverse heq⟩
  · next heq => exact .inr ⟨'z', .inr rfl, hreverse heq⟩
  · exact .inl rfl

/-- A text that a layout matches is spelled in one of the layout's ways. -/
theorem Layout.exists_spelling (h : layout.parts? text = some parts) :
    ∃ items ∈ layout.spellings, readItems? items {} text = some (parts, []) := by
  rw [Layout.parts?_eq_some_iff] at h
  unfold Layout.body at h
  unfold Layout.spellings
  split at h
  · next hzulu =>
    rw [if_pos hzulu]
    rcases dropZulu_eq_or text with hsame | ⟨z, hz, htext⟩
    · rw [hsame] at h
      exact ⟨layout.items, by simp, h⟩
    · refine ⟨layout.items ++ [.oneOf ['Z', 'z']], by simp, ?_⟩
      have hread := readItems?_append (ends_zulu hz) h
      rw [← htext] at hread
      refine readItems?_append_items hread ?_
      rcases hz with rfl | rfl <;> rfl
  · next hzulu =>
    rw [if_neg hzulu]
    exact ⟨layout.items, by simp, h⟩

/-- A text that both lists of items match has the same numbers in both. -/
def Agree (items others : List Item) : Prop :=
  ∀ ⦃text : List Char⦄ ⦃parts parts' : Parts⦄, readItems? items {} text = some (parts, []) →
    readItems? others {} text = some (parts', []) → parts = parts'

theorem Agree.symm {items others : List Item} (h : Agree items others) : Agree others items :=
  fun _ _ _ hread hread' ↦ (h hread' hread).symm

theorem Agree.refl (items : List Item) : Agree items items := by
  intro text parts parts' hread hread'
  rw [hread] at hread'
  cases hread'
  rfl

/-- The layouts that match a text find the same numbers in it. -/
theorem parts?_eq_of_mem_layouts (hlayout : layout ∈ layouts) (hother : other ∈ layouts)
    (h : layout.parts? text = some parts) (h' : other.parts? text = some parts') :
    parts = parts' := by
  obtain ⟨items, hitems, hread⟩ := Layout.exists_spelling h
  obtain ⟨others, hothers, hread'⟩ := Layout.exists_spelling h'
  have hpairs : (layouts.flatMap Layout.spellings).Pairwise Agree :=
    pairwise_coherent.imp fun hcoherent _ _ _ ↦ eq_of_coherent hcoherent
  have : Std.Symm Agree := ⟨fun _ _ ↦ Agree.symm⟩
  exact hpairs.forall_of_forall (fun _ _ ↦ Agree.refl _)
    (List.mem_flatMap.2 ⟨layout, hlayout, hitems⟩) (List.mem_flatMap.2 ⟨other, hother, hothers⟩)
    hread hread'

/-- The layouts that accept a text agree on its instant. -/
theorem read?_eq_of_mem_layouts {instant instant' : Instant} (hlayout : layout ∈ layouts)
    (hother : other ∈ layouts) (h : layout.read? text = some instant)
    (h' : other.read? text = some instant') : instant = instant' := by
  rw [Layout.read?_eq, Option.bind_eq_some_iff] at h h'
  obtain ⟨parts, hparts, hinstant⟩ := h
  obtain ⟨parts', hparts', hinstant'⟩ := h'
  rw [parts?_eq_of_mem_layouts hother hlayout hparts' hparts, hinstant] at hinstant'
  exact Option.some.inj hinstant'

/-- The first layout that accepts a text, in whatever order they are tried, gives the instant that
any of them gives. -/
theorem findSome?_eq_some_iff {order : List Layout} (horder : order.Perm layouts)
    {instant : Instant} :
    order.findSome? (·.read? text) = some instant ↔
      ∃ layout ∈ layouts, layout.read? text = some instant := by
  constructor
  · intro h
    obtain ⟨layout, hmem, hread⟩ := List.exists_of_findSome?_eq_some h
    exact ⟨layout, horder.mem_iff.1 hmem, hread⟩
  · rintro ⟨layout, hmem, hread⟩
    cases hfirst : order.findSome? (·.read? text) with
    | none =>
      have hnone := List.findSome?_eq_none_iff.1 hfirst layout (horder.mem_iff.2 hmem)
      rw [hread] at hnone
      cases hnone
    | some other =>
      obtain ⟨first, hfirst, hread'⟩ := List.exists_of_findSome?_eq_some hfirst
      rw [read?_eq_of_mem_layouts hmem (horder.mem_iff.1 hfirst) hread hread']

/-- A text denotes the instant that any of the layouts gives it. -/
theorem read?_eq_some_iff {text : String} {instant : Instant} :
    read? text = some instant ↔
      ∃ layout ∈ layouts, layout.read? (Text.trim text.toList) = some instant :=
  findSome?_eq_some_iff (List.Perm.refl layouts)

/-- A text that some layout matches denotes the instant of the numbers found, if there is one. -/
theorem read?_eq_of_parts? {text : String} (hlayout : layout ∈ layouts)
    (h : layout.parts? (Text.trim text.toList) = some parts) : read? text = parts.instant? := by
  refine Option.ext fun instant ↦ ?_
  rw [read?_eq_some_iff]
  constructor
  · rintro ⟨other, hother, hread⟩
    obtain ⟨parts', hparts', hinstant⟩ := Option.bind_eq_some_iff.1 (Layout.read?_eq ▸ hread)
    rwa [parts?_eq_of_mem_layouts hlayout hother h hparts']
  · intro hinstant
    exact ⟨layout, hlayout, by rw [Layout.read?_eq, h, Option.bind_some, hinstant]⟩

end Layouts

/-- The layouts that accept a text without the blanks around it agree on its instant; the result is
the same in whatever order they are tried; and the texts that are accepted are those that some
layout accepts, with the instant that it gives. -/
theorem layouts_agree (text : String) :
    (∀ layout ∈ layouts, ∀ other ∈ layouts, ∀ instant instant',
        layout.read? (Text.trim text.toList) = some instant →
          other.read? (Text.trim text.toList) = some instant' → instant = instant') ∧
      (∀ order : List Layout, order.Perm layouts →
        order.findSome? (·.read? (Text.trim text.toList)) = read? text) ∧
      ∀ instant, read? text = some instant ↔
        ∃ layout ∈ layouts, layout.read? (Text.trim text.toList) = some instant := by
  refine ⟨fun layout hlayout other hother instant instant' ↦
    read?_eq_of_mem_layouts hlayout hother, fun order horder ↦ ?_, fun _ ↦ read?_eq_some_iff⟩
  refine Option.ext fun instant ↦ ?_
  rw [findSome?_eq_some_iff horder, read?_eq_some_iff]

/-- A timestamp that more than one layout accepts: the strict profile gives its instant, and no
layout gives another one. -/
theorem sample_layouts_agree :
    strict.read? (Text.trim " 2024-01-01T11:00:00.5+01:00".toList) = some ⟨1704103200, 500000000⟩ ∧
      ∀ layout ∈ layouts, ∀ instant,
        layout.read? (Text.trim " 2024-01-01T11:00:00.5+01:00".toList) = some instant →
          instant = ⟨1704103200, 500000000⟩ := by
  have hstrict : strict.read? (Text.trim " 2024-01-01T11:00:00.5+01:00".toList) =
      some ⟨1704103200, 500000000⟩ := by
    decide +kernel
  exact ⟨hstrict, fun layout hlayout instant hread ↦
    (layouts_agree _).1 layout hlayout strict List.mem_cons_self _ _ hread hstrict⟩

end RunningBalance.Timestamp
