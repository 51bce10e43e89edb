import MonitValidation.Engine.Event
import MonitValidation.Engine.Service
import MonitValidation.Engine.Plan
import MonitValidation.Scheduler.Skip
import MonitValidation.Scheduler.Timeout
import MonitValidation.Tests.Basic
import MonitValidation.Tests.Resources
import MonitValidation.Tests.Change
import MonitValidation.Tests.Connection
import MonitValidation.Content.Read
import MonitValidation.Content.Match
import MonitValidation.Validators.Program
import MonitValidation.Validators.Kinds
import MonitValidation.Driver.Validate
import MonitValidation.Driver.Restarts
import MonitValidation.Driver.Schedule
import MonitValidation.Driver.Tail
import MonitValidation.Driver.Actions
import MonitValidation.Driver.Monitoring
