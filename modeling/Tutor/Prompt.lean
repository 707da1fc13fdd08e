/-!
# Prompts

The two texts that instruct the language model. The tutor's persona is fixed and only the language
varies. The request for a summary asks for the layout that `Tutor.Answer.Simplified` reads: a short
summary, a blank line, one example.
-/

namespace Tutor.Prompt

/-- The tutor's persona, for answers in a language. -/
def persona (language : String) : String :=
  "You are Learnify's AI Student Companion, a friendly, patient and clear tutor. Always explain in "
    ++ language ++ ". Give step-by-step answers with examples, and if possible a simpler summary in "
    ++ language ++ "."

/-- The request for a summary and an example of an answer, which follows the instructions as it
stands. -/
def summaryRequest (language answer : String) : String :=
  "In " ++ language ++ ", provide a very short (2-3 sentence) summary of the following answer, "
    ++ "followed by a one-sentence real-world example. Separate the summary and the example with a "
    ++ "blank line. Answer: " ++ answer

end Tutor.Prompt
