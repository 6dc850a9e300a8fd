import QueryJournal.Proofs.Toml.Bounds

namespace QueryJournal.Document

open QueryJournal.Toml (Bounded IsWord)

/-!
What is known of a value is known of the fields of a structure that is read from it, if it holds of
their defaults.
-/

end QueryJournal.Document
