import BugArchive.Xml.Letter
/-!
Namespaces: names with a qualifier mean names in the namespace that the qualifier is bound to. A
name in a namespace is shown with the namespace in braces before it.
-/
namespace BugArchive.Xml

/-- The bindings in force, latest first. The empty qualifier is for elements without one, and an
empty namespace is none. -/
abbrev Scope := List (List Char × List Char)

namespace Scope

def xmlNamespace : List Char := "http://www.w3.org/XML/1998/namespace".toList

def xmlnsNamespace : List Char := "http://www.w3.org/2000/xmlns/".toList

def initial : Scope := [("xml".toList, xmlNamespace)]

def splitName (name : List Char) : Option (List Char) × List Char :=
  match name.dropWhile (· != ':') with
  | _ :: r => (some (name.takeWhile (· != ':')), r)
  | [] => (none, name)

def isAllowed (qualifier uri : List Char) : Bool :=
  if uri.contains '}' then false
  else if qualifier == "xmlns".toList then false
  else if qualifier == "xml".toList then uri == xmlNamespace
  else uri != xmlNamespace && uri != xmlnsNamespace && (qualifier.isEmpty || !uri.isEmpty)

def binds? (name : List Char) : Option (List Char) :=
  match splitName name with
  | (none, n) => if n == "xmlns".toList then some [] else none
  | (some q, n) => if q == "xmlns".toList then some n else none

def extend (scope : Scope) : List (List Char × List Char) → Option Scope
  | [] => some scope
  | (name, uri) :: as =>
    match binds? name with
    | none => scope.extend as
    | some q => if isAllowed q uri then Scope.extend ((q, uri) :: scope) as else none

def inNamespace (uri name : List Char) : List Char :=
  if uri.isEmpty then name else '{' :: uri ++ '}' :: name

def elementName (scope : Scope) (name : List Char) : Option (List Char) :=
  match splitName name with
  | (none, n) => some (inNamespace ((scope.lookup []).getD []) n)
  | (some q, n) => (scope.lookup q).map (inNamespace · n)

def attributeName (scope : Scope) (name : List Char) : Option (List Char) :=
  match splitName name with
  | (none, n) => some n
  | (some q, n) => (scope.lookup q).map (inNamespace · n)

def attributes (scope : Scope) (as : List (List Char × List Char)) :
    Option (List (List Char × List Char)) :=
  (as.filter fun a => (binds? a.1).isNone).mapM fun a => do
    return (← scope.attributeName a.1, a.2)

end Scope

end BugArchive.Xml
