import DocAccess.Container.Driver

/-!
# Recorded drivers

A recorded driver writes down each of its calls with the answer, and answers as the driver that it
records.  As a driver is free in what it answers and in how it goes on, the record of a use of a
handle or a feed shows what it asks of any driver.
-/

namespace DocAccess.Container

open DocAccess.Document DocAccess.Query DocAccess.Store

/-- A call of a driver with its answer. -/
inductive Exchange where
  | read (container : String) (a : Address) (o : Options) (answer : Except StoreError Value)
  | create (container : String) (body : Value) (o : Options) (answer : Except StoreError Value)
  | replace (container : String) (a : Address) (body : Value) (o : Options)
      (answer : Except StoreError Value)
  | delete (container : String) (a : Address) (o : Options) (answer : Except StoreError Unit)
  | query (container : String) (q : Prepared) (continuation : Option String) (o : Options)
      (answer : Except StoreError Page)

variable {σ β : Type}

/-- Whether an exchange is how a driver answers in a state, from which it goes on to another. -/
def Exchange.Answers (d : Driver σ) (s s' : σ) : Exchange → Prop
  | read container a o answer => d.read container a o s = (answer, s')
  | create container body o answer => d.create container body o s = (answer, s')
  | replace container a body o answer => d.replace container a body o s = (answer, s')
  | delete container a o answer => d.delete container a o s = (answer, s')
  | query container q continuation o answer => d.query container q continuation o s = (answer, s')

/-- Runs an operation and writes the exchange down. -/
def noted (run : Run σ β) (exchange : Except StoreError β → Exchange) :
    Run (σ × List Exchange) β := fun (s, calls) =>
  let (answer, s) := run.run s
  (answer, s, calls ++ [exchange answer])

/-- The driver that writes its calls down. -/
def Driver.recorded (d : Driver σ) : Driver (σ × List Exchange) where
  read container a o := noted (d.read container a o) (.read container a o)
  create container body o := noted (d.create container body o) (.create container body o)
  replace container a body o :=
    noted (d.replace container a body o) (.replace container a body o)
  delete container a o := noted (d.delete container a o) (.delete container a o)
  query container q continuation o :=
    noted (d.query container q continuation o) (.query container q continuation o)

theorem noted_apply {run : Run σ β} {s s' : σ} {answer : Except StoreError β}
    (h : run s = (answer, s')) (exchange : Except StoreError β → Exchange)
    (calls : List Exchange) :
    noted run exchange (s, calls) = (answer, s', calls ++ [exchange answer]) := by
  simp only [noted, ExceptT.run, h]

end DocAccess.Container
