import FeedMonitor.Json.Writer
import FeedMonitor.Text.Quoted

/-!
A description of a JSON value that names the kind of every part, for people to read.
-/

namespace FeedMonitor.Json

def quotedChars (s : String) : List Char := (Text.quoted s).toList

mutual

def outlineChars : Json → List Char
  | .null => "Null".toList
  | .bool true => "Bool(true)".toList
  | .bool false => "Bool(false)".toList
  | .number n => "Number(".toList ++ n.write ++ [')']
  | .string s => "String(".toList ++ quotedChars s ++ [')']
  | .array items => "Array [".toList ++ outlineItems items ++ [']']
  | .object members => "Object \x7b".toList ++ outlineMembers members ++ ['\x7d']

def outlineItems : List Json → List Char
  | [] => []
  | [item] => outlineChars item
  | item :: next :: rest => outlineChars item ++ ", ".toList ++ outlineItems (next :: rest)

def outlineMembers : List (String × Json) → List Char
  | [] => []
  | [(name, value)] => quotedChars name ++ ": ".toList ++ outlineChars value
  | (name, value) :: next :: rest =>
    quotedChars name ++ ": ".toList ++ outlineChars value ++ ", ".toList
      ++ outlineMembers (next :: rest)

end

def outline (value : Json) : String := String.ofList (outlineChars value)

end FeedMonitor.Json
