import Reconcile.Decimal.Shapes
import Reconcile.Expectation.Expression
import Reconcile.Expectation.Fault

/-!
# Arguments

What an argument stands for. An argument that is not written, or is blank, is omitted; whether
that is a fault depends on what is asked for.
-/

namespace Reconcile.Expectation

open Reconcile.Text

namespace Expression

/-- The text of an argument without surrounding blanks, unless it is omitted. -/
def argument? (e : Expression) (place : Nat) : Option String :=
  match e.arguments[place]? with
  | none => none
  | some a =>
    let t := trim a.text
    if t.isEmpty then none else some t

def badArgument (e : Expression) (place : Nat) (value parameter : String) : Cause :=
  .badArgument e.callName value place parameter

/-- An argument that is a decimal; nothing when it is omitted. -/
def decimal? (e : Expression) (place : Nat) (parameter : String) :
    Except Cause (Option Decimal) :=
  match e.argument? place with
  | none => .ok none
  | some t => match Decimal.read? t with
    | none => .error (e.badArgument place t parameter)
    | some d => .ok (some d)

/-- An argument that must be there and is a decimal. -/
def decimal (e : Expression) (place : Nat) (parameter : String) : Except Cause Decimal := do
  match ← e.decimal? place parameter with
  | some d => return d
  | none => throw (e.badArgument place "" parameter)

/-- An argument that is an integer, no further from zero than the limit; nothing when omitted. -/
def integer? (e : Expression) (place : Nat) (parameter : String) (limit : Option Int) :
    Except Cause (Option Int) :=
  match e.argument? place with
  | none => .ok none
  | some t => match Decimal.readInteger? t with
    | none => .error (e.badArgument place t parameter)
    | some n =>
      if limit.all (fun l => (n.natAbs : Int) ≤ l) then .ok (some n)
      else .error (e.badArgument place t parameter)

/-- An argument that is a truth value; an omitted one is true. -/
def boolean (e : Expression) (place : Nat) (parameter : String) : Except Cause Bool :=
  match e.argument? place with
  | none => .ok true
  | some t =>
    if t == "true" then .ok true
    else if t == "false" then .ok false
    else .error (e.badArgument place t parameter)

/-- An argument that must be there. -/
def text (e : Expression) (place : Nat) (parameter : String) : Except Cause String :=
  match e.argument? place with
  | some t => .ok t
  | none => .error (e.badArgument place "" parameter)

/-- An argument that says which bounds belong to a range; when omitted, none. -/
def inclusion (e : Expression) (place : Nat) : Except Cause Inclusion :=
  match e.argument? place with
  | none => .ok .none
  | some t => match Inclusion.ofName? t with
    | some i => .ok i
    | none => .error (.badInclusion e.callName t)

end Expression

/-- Checks the number of arguments of a call. -/
def Function.checkArity (f : Function) (count : Nat) : Except Cause Unit :=
  let (least, most) := f.arity
  if count = 0 then .error (.missingArguments f.name)
  else if count < least || most < count then .error (.wrongCount f.name least most)
  else .ok ()

end Reconcile.Expectation
