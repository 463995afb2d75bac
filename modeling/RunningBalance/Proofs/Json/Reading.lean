import RunningBalance.Json.Reader
import RunningBalance.Proofs.Json.Token

/-!
# Printed values are read back

Reading the text of a value from any place where a value may stand leads to the place behind it,
with the value as a draft (`run_print`). So a printed value is one whole value, the one that was
printed, on one line or spread over lines (`ofText_compact`, `ofText_pretty`).
-/

set_option autoImplicit false
set_option relaxedAutoImplicit false

namespace RunningBalance.Json

open State

/-- Where reading the tokens of a text leads. -/
def State.run (state : State) (text : List Char) : State :=
  (Token.scan text).foldl step state

/-- A value may come next, as a part of the given open containers. -/
inductive State.Awaits : State → List Frame → Prop
  | value (stack : List Frame) : Awaits (.atValue stack) stack
  | firstItem (stack : List Frame) : Awaits (.atFirstItem stack) (.items [] :: stack)

section Steps

variable {state : State} {stack : List Frame} {text rest : List Char} {token : Token}
  {spread : Bool} {depth : ℕ} {c : Char}

/-- Any token but the end of an array starts the value that may come next. -/
theorem State.Awaits.step_eq (h : state.Awaits stack) (htoken : token ≠ .closeArray) :
    step state token = start stack token := by
  cases h with
  | value => rfl
  | firstItem stack => cases token <;> first | rfl | exact absurd rfl htoken

theorem run_token (hstart : Text.StartsOff Token.isBlank text)
    (hone : Token.scanOne? text = some (token, rest)) :
    state.run text = (step state token).run rest := by
  rw [run, Token.scan_of_scanOne? hstart hone]
  rfl

theorem run_cons (c : Char) (token : Token) (hblank : Token.isBlank c = false)
    (hone : Token.scanOne? (c :: text) = some (token, rest)) :
    state.run (c :: text) = (step state token).run rest :=
  run_token (Text.startsOff_cons.2 hblank) hone

theorem State.Awaits.run_token (h : state.Awaits stack) (token : Token)
    (htoken : token ≠ .closeArray) (hstart : Text.StartsOff Token.isBlank text)
    (hone : Token.scanOne? text = some (token, rest)) :
    state.run text = (start stack token).run rest := by
  rw [Json.run_token hstart hone, h.step_eq htoken]

theorem State.Awaits.run_cons (h : state.Awaits stack) (c : Char) (token : Token)
    (htoken : token ≠ .closeArray) (hblank : Token.isBlank c = false)
    (hone : Token.scanOne? (c :: text) = some (token, rest)) :
    state.run (c :: text) = (start stack token).run rest :=
  h.run_token token htoken (Text.startsOff_cons.2 hblank) hone

theorem run_lineStart : state.run (lineStart spread depth ++ rest) = state.run rest := by
  have hblank : ∀ c ∈ lineStart spread depth, Token.isBlank c = true := by
    intro c hc
    cases spread with
    | false => cases hc
    | true =>
      rcases List.mem_cons.1 hc with rfl | hc
      · decide
      · rw [List.eq_of_mem_replicate hc]
        decide
  rw [run, Token.scan_append_of_isBlank hblank, run]

theorem run_printString (value : String) :
    state.run (printString value ++ rest) = (step state (.string (some value))).run rest :=
  run_token (Text.startsOff_cons.2 (by decide)) (Token.scanOne?_printString value)

/-- The key of a member, up to the place of its value. -/
theorem run_key {before : List (Option String × Draft)} (key : String)
    (hkey : step state (.string (some key)) = .atColon before (some key) stack) :
    state.run (printString key ++ (keyEnd spread ++ rest)) =
      (State.atValue (.member before (some key) :: stack)).run rest := by
  have hcolon {rest : List Char} : (State.atColon before (some key) stack).run (':' :: rest) =
      (State.atValue (.member before (some key) :: stack)).run rest :=
    run_cons ':' .colon (by decide) rfl
  rw [run_printString, hkey]
  cases spread with
  | false => exact hcolon
  | true =>
    have hspace : ∀ c ∈ [' '], Token.isBlank c = true := List.forall_mem_singleton.2 (by decide)
    rw [keyEnd, if_pos rfl, List.cons_append, hcolon, run, Token.scan_append_of_isBlank hspace, run]

/-! ### What follows a value -/

theorem startsOff_lineStart (hc : Token.isNumeric c = false) :
    Text.StartsOff Token.isNumeric (lineStart spread depth ++ c :: rest) := by
  cases spread with
  | false => exact Text.startsOff_cons.2 hc
  | true => exact Text.startsOff_cons.2 (by decide)

theorem startsOff_printItems {inner : ℕ} (items : List Json) (hc : Token.isNumeric c = false) :
    Text.StartsOff Token.isNumeric
      (printItems spread inner items ++ (lineStart spread depth ++ c :: rest)) := by
  cases items with
  | nil => exact startsOff_lineStart hc
  | cons item items => exact Text.startsOff_cons.2 (by decide)

theorem startsOff_printMembers {inner : ℕ} (members : List (String × Json))
    (hc : Token.isNumeric c = false) :
    Text.StartsOff Token.isNumeric
      (printMembers spread inner members ++ (lineStart spread depth ++ c :: rest)) := by
  cases members with
  | nil => exact startsOff_lineStart hc
  | cons member members => exact Text.startsOff_cons.2 (by decide)

end Steps

section Values

variable {spread : Bool}

mutual

/-- Reading a printed value leads to the place behind it, from any place where a value may stand. -/
theorem run_print (json : Json) {depth : ℕ} {state : State} {stack : List Frame} {rest : List Char}
    (hstate : state.Awaits stack) (hrest : Text.StartsOff Token.isNumeric rest) :
    state.run (print spread depth json ++ rest) = (settle json.draft stack).run rest := by
  match json with
  | .null => exact hstate.run_cons 'n' .null nofun (by decide) rfl
  | .bool true => exact hstate.run_cons 't' (.bool true) nofun (by decide) rfl
  | .bool false => exact hstate.run_cons 'f' (.bool false) nofun (by decide) rfl
  | .integer value =>
    have hstart : Text.StartsOff Token.isBlank (Decimal.ofInt value ++ rest) := by
      rw [Decimal.ofInt_eq, List.append_assoc]
      exact Token.startsOff_isBlank_signed _ _
    exact hstate.run_token (.integer value) nofun hstart (Token.scanOne?_ofInt value hrest)
  | .decimal negative mantissa exponent =>
    rw [print, List.append_assoc, List.append_assoc]
    exact hstate.run_token (.decimal negative mantissa exponent) nofun
      (Token.startsOff_isBlank_signed negative mantissa)
      (Token.scanOne?_decimal negative mantissa exponent hrest)
  | .string value =>
    exact hstate.run_cons '"' (.string (some value)) nofun (by decide)
      (Token.scanOne?_printString value)
  | .array [] =>
    calc state.run (print spread depth (.array []) ++ rest)
        = (State.atFirstItem stack).run (']' :: rest) :=
          hstate.run_cons '[' .openArray nofun (by decide) rfl
      _ = (settle (.array []) stack).run rest := run_cons ']' .closeArray (by decide) rfl
  | .array (item :: items) =>
    calc state.run (print spread depth (.array (item :: items)) ++ rest)
        = state.run ('[' :: (lineStart spread (depth + 1) ++ (print spread (depth + 1) item ++
            (printItems spread (depth + 1) items ++
              (lineStart spread depth ++ ']' :: rest))))) := by
          simp only [print, List.append_assoc, List.cons_append, List.nil_append]
      _ = (State.atFirstItem stack).run (lineStart spread (depth + 1) ++
            (print spread (depth + 1) item ++ (printItems spread (depth + 1) items ++
              (lineStart spread depth ++ ']' :: rest)))) :=
          hstate.run_cons '[' .openArray nofun (by decide) rfl
      _ = (State.afterItem [item.draft] stack).run (printItems spread (depth + 1) items ++
            (lineStart spread depth ++ ']' :: rest)) := by
          rw [run_lineStart]
          exact run_print item (.firstItem stack) (startsOff_printItems items (by decide))
      _ = (settle (Json.array (item :: items)).draft stack).run rest := run_printItems items
  | .object [] =>
    calc state.run (print spread depth (.object []) ++ rest)
        = (State.atFirstKey stack).run ('\x7d' :: rest) :=
          hstate.run_cons '\x7b' .openObject nofun (by decide) rfl
      _ = (settle (.object []) stack).run rest :=
          run_cons '\x7d' .closeObject (by decide) rfl
  | .object ((key, value) :: members) =>
    calc state.run (print spread depth (.object ((key, value) :: members)) ++ rest)
        = state.run ('\x7b' :: (lineStart spread (depth + 1) ++ (printString key ++
            (keyEnd spread ++ (print spread (depth + 1) value ++
              (printMembers spread (depth + 1) members ++
                (lineStart spread depth ++ '\x7d' :: rest))))))) := by
          simp only [print, List.append_assoc, List.cons_append, List.nil_append]
      _ = (State.atFirstKey stack).run (lineStart spread (depth + 1) ++ (printString key ++
            (keyEnd spread ++ (print spread (depth + 1) value ++
              (printMembers spread (depth + 1) members ++
                (lineStart spread depth ++ '\x7d' :: rest)))))) :=
          hstate.run_cons '\x7b' .openObject nofun (by decide) rfl
      _ = (State.atValue (.member [] (some key) :: stack)).run (print spread (depth + 1) value ++
            (printMembers spread (depth + 1) members ++
              (lineStart spread depth ++ '\x7d' :: rest))) := by
          rw [run_lineStart, run_key key rfl]
      _ = (State.afterMember [(some key, value.draft)] stack).run
            (printMembers spread (depth + 1) members ++
              (lineStart spread depth ++ '\x7d' :: rest)) :=
          run_print value (.value _) (startsOff_printMembers members (by decide))
      _ = (settle (Json.object ((key, value) :: members)).draft stack).run rest :=
          run_printMembers members

/-- The items after the first, up to the end of their array. -/
theorem run_printItems (items : List Json) {depth outer : ℕ} {before : List Draft}
    {stack : List Frame} {rest : List Char} :
    (State.afterItem before stack).run
        (printItems spread depth items ++ (lineStart spread outer ++ ']' :: rest)) =
      (settle (.array (before.reverse ++ draftItems items)) stack).run rest := by
  match items with
  | [] =>
    rw [printItems, List.nil_append, run_lineStart, draftItems, List.append_nil]
    exact run_cons ']' .closeArray (by decide) rfl
  | item :: items =>
    calc (State.afterItem before stack).run
          (printItems spread depth (item :: items) ++ (lineStart spread outer ++ ']' :: rest))
        = (State.afterItem before stack).run (',' :: (lineStart spread depth ++
            (print spread depth item ++ (printItems spread depth items ++
              (lineStart spread outer ++ ']' :: rest))))) := by
          simp only [printItems, List.append_assoc, List.cons_append]
      _ = (State.atValue (.items before :: stack)).run (print spread depth item ++
            (printItems spread depth items ++ (lineStart spread outer ++ ']' :: rest))) := by
          rw [run_cons ',' .comma (by decide) rfl, run_lineStart]
          rfl
      _ = (State.afterItem (item.draft :: before) stack).run (printItems spread depth items ++
            (lineStart spread outer ++ ']' :: rest)) :=
          run_print item (.value _) (startsOff_printItems items (by decide))
      _ = (settle (.array (before.reverse ++ draftItems (item :: items))) stack).run rest := by
          rw [run_printItems items, List.reverse_cons, List.append_assoc, draftItems]
          rfl

/-- The members after the first, up to the end of their object. -/
theorem run_printMembers (members : List (String × Json)) {depth outer : ℕ}
    {before : List (Option String × Draft)} {stack : List Frame} {rest : List Char} :
    (State.afterMember before stack).run
        (printMembers spread depth members ++ (lineStart spread outer ++ '\x7d' :: rest)) =
      (settle (.object (before.reverse ++ draftMembers members)) stack).run rest := by
  match members with
  | [] =>
    rw [printMembers, List.nil_append, run_lineStart, draftMembers, List.append_nil]
    exact run_cons '\x7d' .closeObject (by decide) rfl
  | (key, value) :: members =>
    calc (State.afterMember before stack).run
          (printMembers spread depth ((key, value) :: members) ++
            (lineStart spread outer ++ '\x7d' :: rest))
        = (State.afterMember before stack).run (',' :: (lineStart spread depth ++
            (printString key ++ (keyEnd spread ++ (print spread depth value ++
              (printMembers spread depth members ++
                (lineStart spread outer ++ '\x7d' :: rest))))))) := by
          simp only [printMembers, List.append_assoc, List.cons_append]
      _ = (State.atKey before stack).run (printString key ++ (keyEnd spread ++
            (print spread depth value ++ (printMembers spread depth members ++
              (lineStart spread outer ++ '\x7d' :: rest))))) := by
          rw [run_cons ',' .comma (by decide) rfl, run_lineStart]
          rfl
      _ = (State.afterMember ((some key, value.draft) :: before) stack).run
            (printMembers spread depth members ++ (lineStart spread outer ++ '\x7d' :: rest)) := by
          rw [run_key key rfl]
          exact run_print value (.value _) (startsOff_printMembers members (by decide))
      _ = (settle (.object (before.reverse ++ draftMembers ((key, value) :: members))) stack).run
            rest := by
          rw [run_printMembers members, List.reverse_cons, List.append_assoc, draftMembers]
          rfl

end

/-- A printed value is one whole value, the one that was printed. -/
theorem ofText_print (spread : Bool) (json : Json) :
    Reading.ofText (String.ofList (print spread 0 json)) =
      { tree := json.draft, complete := true } := by
  have hrun : (State.atValue []).run (print spread 0 json ++ []) =
      (State.complete json.draft).run [] :=
    run_print json (.value []) Text.startsOff_nil
  rw [List.append_nil, run, run, Token.scan_nil, List.foldl_nil] at hrun
  rw [Reading.ofText, String.toList_ofList, Reading.ofTokens, hrun]
  rfl

end Values

theorem ofText_compact (json : Json) :
    Reading.ofText json.compact = { tree := json.draft, complete := true } :=
  ofText_print false json

theorem ofText_pretty (json : Json) :
    Reading.ofText json.pretty = { tree := json.draft, complete := true } :=
  ofText_print true json

/-- A text that is one whole value is decoded like its tree. -/
theorem decode_of_complete {α : Type} (decoder : Draft → Except Fault α) {tree : Json}
    {text : String} (htext : Reading.ofText text = { tree := tree.draft, complete := true }) :
    decode decoder text = decoder tree.draft := by
  rw [decode, htext]
  cases decoder tree.draft <;> rfl

theorem decode_print {α : Type} (decoder : Draft → Except Fault α) (spread : Bool) (json : Json) :
    decode decoder (String.ofList (print spread 0 json)) = decoder json.draft :=
  decode_of_complete decoder (ofText_print spread json)

end RunningBalance.Json
