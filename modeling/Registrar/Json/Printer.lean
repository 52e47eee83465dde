import Registrar.Json.Quoted
import Registrar.Json
import Registrar.Binary64.Shortest

/- JSON text of values: on one line without spaces, or on lines of their own, indented by two. -/
namespace Registrar

def Number.render : Number → List Char
  | .integer z => Digits.ofInt z
  | .float x => x.render

namespace Json

mutual

def render : Json → List Char
  | .null => ['n', 'u', 'l', 'l']
  | .bool true => ['t', 'r', 'u', 'e']
  | .bool false => ['f', 'a', 'l', 's', 'e']
  | .number n => n.render
  | .string s => Quoted.write s
  | .array [] => ['[', ']']
  | .array (v :: rest) => '[' :: (render v ++ renderItems rest ++ [']'])
  | .object [] => ['\x7b', '\x7d']
  | .object ((name, v) :: rest) =>
    '\x7b' :: (Quoted.write name ++ ':' :: render v ++ renderMembers rest ++ ['\x7d'])

def renderItems : List Json → List Char
  | [] => []
  | v :: rest => ',' :: (render v ++ renderItems rest)

def renderMembers : List (String × Json) → List Char
  | [] => []
  | (name, v) :: rest => ',' :: (Quoted.write name ++ ':' :: render v ++ renderMembers rest)

end

def indented (depth : Nat) : List Char := '\n' :: List.replicate (2 * depth) ' '

mutual

def renderLines (depth : Nat) : Json → List Char
  | .array (v :: rest) =>
    '[' :: (indented (depth + 1) ++ renderLines (depth + 1) v ++ itemLines (depth + 1) rest ++
      indented depth ++ [']'])
  | .object ((name, v) :: rest) =>
    '\x7b' :: (indented (depth + 1) ++ Quoted.write name ++ [':', ' '] ++
      renderLines (depth + 1) v ++ memberLines (depth + 1) rest ++ indented depth ++ ['\x7d'])
  | .array [] => ['[', ']']
  | .object [] => ['\x7b', '\x7d']
  | .null => ['n', 'u', 'l', 'l']
  | .bool true => ['t', 'r', 'u', 'e']
  | .bool false => ['f', 'a', 'l', 's', 'e']
  | .number n => n.render
  | .string s => Quoted.write s

def itemLines (depth : Nat) : List Json → List Char
  | [] => []
  | v :: rest => ',' :: (indented depth ++ renderLines depth v ++ itemLines depth rest)

def memberLines (depth : Nat) : List (String × Json) → List Char
  | [] => []
  | (name, v) :: rest =>
    ',' :: (indented depth ++ Quoted.write name ++ [':', ' '] ++ renderLines depth v ++
      memberLines depth rest)

end

end Json
end Registrar
