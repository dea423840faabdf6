import Mathlib.Algebra.Order.Ring.Unbundled.Rat

/-! # JSON documents

The values a JSON encoder sees. An object is listed in key order, so that a
dictionary is one value whatever order it was built in; numbers written by the
encoder for integers and for floats are kept apart, as their texts differ.
-/

namespace SentinelEdge.Foundation

inductive Json where
  | null
  | bool (b : Bool)
  | int (n : Int)
  | float (q : ℚ)
  | str (s : String)
  | arr (items : List Json)
  | obj (fields : List (String × Json))

namespace Json

def optional {α : Type} (f : α → Json) : Option α → Json
  | none => .null
  | some a => f a

mutual
/-- Equality of documents is decidable; deriving does not reach through lists. -/
def decEq : (a b : Json) → Decidable (a = b)
  | .null, b => match b with
      | .null => isTrue rfl
      | .bool _ | .int _ | .float _ | .str _ | .arr _ | .obj _ => isFalse nofun
  | .bool a, b => match b with
      | .bool b => decidable_of_iff (a = b) (by simp)
      | .null | .int _ | .float _ | .str _ | .arr _ | .obj _ => isFalse nofun
  | .int a, b => match b with
      | .int b => decidable_of_iff (a = b) (by simp)
      | .null | .bool _ | .float _ | .str _ | .arr _ | .obj _ => isFalse nofun
  | .float a, b => match b with
      | .float b => decidable_of_iff (a = b) (by simp)
      | .null | .bool _ | .int _ | .str _ | .arr _ | .obj _ => isFalse nofun
  | .str a, b => match b with
      | .str b => decidable_of_iff (a = b) (by simp)
      | .null | .bool _ | .int _ | .float _ | .arr _ | .obj _ => isFalse nofun
  | .arr as, b => match b with
      | .arr bs => match decEqItems as bs with
          | isTrue h => isTrue (h ▸ rfl)
          | isFalse h => isFalse (fun e => h (Json.arr.inj e))
      | .null | .bool _ | .int _ | .float _ | .str _ | .obj _ => isFalse nofun
  | .obj as, b => match b with
      | .obj bs => match decEqFields as bs with
          | isTrue h => isTrue (h ▸ rfl)
          | isFalse h => isFalse (fun e => h (Json.obj.inj e))
      | .null | .bool _ | .int _ | .float _ | .str _ | .arr _ => isFalse nofun

def decEqItems : (as bs : List Json) → Decidable (as = bs)
  | [], [] => isTrue rfl
  | [], _ :: _ => isFalse nofun
  | _ :: _, [] => isFalse nofun
  | a :: as, b :: bs => match decEq a b, decEqItems as bs with
      | isTrue h, isTrue t => isTrue (h ▸ t ▸ rfl)
      | isFalse h, _ => isFalse (fun e => h (List.cons.inj e).1)
      | _, isFalse t => isFalse (fun e => t (List.cons.inj e).2)

def decEqFields : (as bs : List (String × Json)) → Decidable (as = bs)
  | [], [] => isTrue rfl
  | [], _ :: _ => isFalse nofun
  | _ :: _, [] => isFalse nofun
  | (k, a) :: as, (l, b) :: bs =>
      if key : k = l then
        match decEq a b, decEqFields as bs with
        | isTrue h, isTrue t => isTrue (key ▸ h ▸ t ▸ rfl)
        | isFalse h, _ => isFalse (fun e => h (Prod.mk.inj (List.cons.inj e).1).2)
        | _, isFalse t => isFalse (fun e => t (List.cons.inj e).2)
      else isFalse (fun e => key (Prod.mk.inj (List.cons.inj e).1).1)
end

instance : DecidableEq Json := decEq

def quoted (s : String) : String := "\"" ++ s ++ "\""

mutual
/-- The document as compact text, without escapes. -/
def text : Json → String
  | .null => "null"
  | .bool b => toString b
  | .int n => toString n
  | .float q => toString q
  | .str s => quoted s
  | .arr items => "[" ++ textItems items ++ "]"
  | .obj fields => "\x7b" ++ textFields fields ++ "\x7d"

def textItems : List Json → String
  | [] => ""
  | [item] => text item
  | item :: items => text item ++ "," ++ textItems items

def textFields : List (String × Json) → String
  | [] => ""
  | [(key, value)] => quoted key ++ ":" ++ text value
  | (key, value) :: fields => quoted key ++ ":" ++ text value ++ "," ++ textFields fields
end

def quotedChars (s : String) : List Char := '\x22' :: (s.toList ++ ['\x22'])

mutual
/-- The characters of the text, one literal at a time. -/
def chars : Json → List Char
  | .null => "null".toList
  | .bool b => (toString b).toList
  | .int n => (toString n).toList
  | .float q => (toString q).toList
  | .str s => quotedChars s
  | .arr items => '[' :: (charsOfItems items ++ [']'])
  | .obj fields => '\x7b' :: (charsOfFields fields ++ ['\x7d'])

def charsOfItems : List Json → List Char
  | [] => []
  | [item] => chars item
  | item :: items => chars item ++ ',' :: charsOfItems items

def charsOfFields : List (String × Json) → List Char
  | [] => []
  | [(key, value)] => quotedChars key ++ ':' :: chars value
  | (key, value) :: fields => quotedChars key ++ ':' :: (chars value ++ ',' :: charsOfFields fields)
end

theorem quoted_toList (s : String) : (quoted s).toList = quotedChars s := by
  simp [quoted, quotedChars]

mutual
theorem text_toList : ∀ payload : Json, payload.text.toList = payload.chars
  | .null | .bool _ | .int _ | .float _ => by simp [text, chars]
  | .str s => by simp [text, chars, quoted_toList]
  | .arr items => by simp [text, chars, textItems_toList items]
  | .obj fields => by simp [text, chars, textFields_toList fields]

theorem textItems_toList : ∀ items : List Json, (textItems items).toList = charsOfItems items
  | [] => by simp [textItems, charsOfItems]
  | [item] => by simp [textItems, charsOfItems, text_toList item]
  | item :: next :: items => by
      simp [textItems, charsOfItems, text_toList item, textItems_toList (next :: items)]

theorem textFields_toList : ∀ fields : List (String × Json), (textFields fields).toList = charsOfFields fields
  | [] => by simp [textFields, charsOfFields]
  | [(key, value)] => by simp [textFields, charsOfFields, text_toList value, quoted_toList]
  | (key, value) :: next :: fields => by
      simp [textFields, charsOfFields, text_toList value, quoted_toList, textFields_toList (next :: fields)]
end

end Json

end SentinelEdge.Foundation
