import AttendanceApp.AttendanceRuns
import AttendanceApp.RegisterPreview
import AttendanceApp.CameraController
import AttendanceApp.ConfirmLocation
import AttendanceApp.SignOut
import AttendanceApp.Previews
import AttendanceApp.Enrolments
import AttendanceApp.GreatCircle
import AttendanceApp.LoadingDialog
import AttendanceApp.RecognitionReply
import AttendanceApp.Regex
import AttendanceApp.Validator
import AttendanceApp.FireAuth
import AttendanceApp.Credentials
import AttendanceApp.BusyFlag
import AttendanceApp.BusyIndicators
import AttendanceApp.AttendanceSheet
import AttendanceApp.AttendanceMail
import AttendanceApp.StartPage
import AttendanceApp.SignUps
import AttendanceApp.Campus
import AttendanceApp.Sessions
import AttendanceApp.Requests
import AttendanceApp.Lockout
import AttendanceApp.Courses
import AttendanceApp.Access
import AttendanceApp.Captures
import AttendanceApp.AttendanceReport
import AttendanceApp.Profiles
import AttendanceApp.WayBack
import AttendanceApp.Trail
