/-!
# Log records

A record says how grave it is, which part of the program wrote it, and what happened. Gravity is
a number, five values of which have names.
-/

namespace FlowWarden.Log

/-- How grave a record is; the graver, the larger. -/
abbrev Level := Int

/-- Details for tracing a fault. -/
def debug : Level := 10

/-- The usual course of events. -/
def info : Level := 20

/-- Something that was put right or ignored. -/
def warning : Level := 30

/-- Something that failed. -/
def error : Level := 40

/-- Something that the program does not survive. -/
def critical : Level := 50

/-- The name of a level. Levels between the named ones show their number. -/
def levelName (level : Level) : String :=
  if level = 0 then "NOTSET"
  else if level = debug then "DEBUG"
  else if level = info then "INFO"
  else if level = warning then "WARNING"
  else if level = error then "ERROR"
  else if level = critical then "CRITICAL"
  else "Level " ++ toString level

/-- The parts of the program that write records. -/
inductive Source
  | settings
  | models
  | reaper
  | recommender
  | cluster
deriving DecidableEq, Repr

def Source.name : Source → String
  | .settings => "config"
  | .models => "execution_models"
  | .reaper => "stale_execution_reaper"
  | .recommender => "vpa_recommender"
  | .cluster => "kubernetes_clients"

structure Record where
  level : Level
  source : Source
  message : String
deriving DecidableEq, Repr

end FlowWarden.Log
