import CqlTable.Session.Cluster
import CqlTable.Text.Pieces

/-!
# Scripted clusters: clients that follow rules

A script says which clients fail to connect or to shut down, and what is
answered to statements: the first rule that matches and is not used up decides.
Time passes only by rules.
-/

namespace CqlTable

/-- A rule for statements with a given part. It may be used up, it may let time
    pass, and it fails or answers. -/
structure ScriptRule where
  part : String
  remaining : Option Nat
  ms : Double
  reply : Except ClientFailure Answer

namespace ScriptRule

/-- Whether a rule decides a statement. -/
def applies (rule : ScriptRule) (cql : String) : Bool :=
  rule.remaining != some 0 && Text.occursIn rule.part.toList cql.toList

/-- A rule after a use. -/
def used (rule : ScriptRule) : ScriptRule := { rule with remaining := rule.remaining.map (· - 1) }

end ScriptRule

/-- A script: failures of clients by their number, rules, and the time. -/
structure Script where
  connectFailures : List (Option ClientFailure)
  shutdownFailures : List (Option ClientFailure)
  rules : List ScriptRule
  clock : Double

namespace Script

/-- The rule that decides a statement, and the rules after its use. -/
def use? (cql : String) : List ScriptRule → Option (ScriptRule × List ScriptRule)
  | [] => none
  | rule :: rest =>
    if rule.applies cql then some (rule, rule.used :: rest)
    else (use? cql rest).map fun (found, rest) => (found, rule :: rest)

/-- What is answered to a statement; the answer is empty where no rule
    decides. -/
def answer (cql : String) (script : Script) : Script × Except ClientFailure Answer :=
  match use? cql script.rules with
  | none => (script, .ok ⟨[], []⟩)
  | some (rule, rules) => ({ script with rules := rules, clock := script.clock.add rule.ms }, rule.reply)

/-- The script with the clock set back. -/
def resetClock (script : Script) : Script := { script with clock := Double.ofNat 0 }

/-- The cluster of scripts. -/
def cluster : Cluster Script where
  connect client script := (script, script.connectFailures[client]?.join)
  execute _ cql script := script.answer cql
  shutdown client script := (script, script.shutdownFailures[client]?.join)
  clock script := script.clock

end Script

end CqlTable
