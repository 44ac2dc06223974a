import SurveyIntake.Unicode.Runs

/-!
# SurveyIntake.Unicode.Age

The version of the character tables that first had a character.

* `Age.runs`  — the version of every code point, as a partition.
* `Age.names` — the versions in the order they came in, with their other names.
* `Age.set`   — the characters that a version has: its own and those of the versions before it.
* `Recent.graphic`, `Recent.alphabetic`, `Recent.numeric` — the characters of a version later than these that
  show and stand by themselves, that words are made of, and that are numbers.

No class of a regular expression has characters of the later version, but names and messages may.
-/

namespace SurveyIntake
namespace Age

def names : List (String × List String) := [
  ("V1_1", ["1.1"]), ("V2_0", ["2.0"]), ("V2_1", ["2.1"]), ("V3_0", ["3.0"]),
  ("V3_1", ["3.1"]), ("V3_2", ["3.2"]), ("V4_0", ["4.0"]), ("V4_1", ["4.1"]),
  ("V5_0", ["5.0"]), ("V5_1", ["5.1"]), ("V5_2", ["5.2"]), ("V6_0", ["6.0"]),
  ("V6_1", ["6.1"]), ("V6_2", ["6.2"]), ("V6_3", ["6.3"]), ("V7_0", ["7.0"]),
  ("V8_0", ["8.0"]), ("V9_0", ["9.0"]), ("V10_0", ["10.0"]), ("V11_0", ["11.0"]),
  ("V12_0", ["12.0"]), ("V12_1", ["12.1"]), ("V13_0", ["13.0"]), ("V14_0", ["14.0"]),
  ("V15_0", ["15.0"]), ("V15_1", ["15.1"]), ("V16_0", ["16.0"])]

def runs : List ((Nat × Nat) × String) := Runs.labels
    ["502V1_1 4V3_0 30V1_1 8V3_0 1V3_2 1V4_0 18V3_0 3V4_0 11V4_1 14V5_0 89V1_1 5V3_0 2V4_0 47V1_1",
    "1V3_0 10V1_1 5V3_0 17V4_0 70V1_1 9V3_0 1V3_2 8V4_0 5V4_1 3V4_0 2V1_1 1V3_0 13V3_2 4V5_1",
    "2V1_1 2V5_1 2None 1V1_1 3V5_0 1V1_1 1V7_0 4None 7V1_1 1None 1V1_1 1None 20V1_1 1None 44V1_1",
    "1V5_1 7V1_1 1V3_0 2V3_2 1V1_1 1V3_0 1V1_1 1V3_0 1V1_1 1V3_0 1V1_1 1V3_0 18V1_1 2V3_1 1V3_2",
    "5V4_0 4V4_1 1V3_0 12V1_1 1V3_0 66V1_1 1V3_0 12V1_1 1V3_0 41V1_1 1V5_1 2V3_0 2V3_2 4V3_0",
    "53V1_1 2V3_2 2V1_1 2V3_2 2V1_1 2V3_2 1V5_0 28V1_1 2V3_0 8V1_1 2V4_1 2V1_1 6V5_0 16V3_2",
    "4V5_0 16V5_1 2V5_2 2V6_0 8V7_0 1None 38V1_1 2None 7V1_1 1V11_0 39V1_1 1V11_0 1V1_1 1V3_0",
    "2None 2V7_0 1V6_1 1None 17V2_0 1V4_1 13V2_0 10V1_1 1V5_0 9V1_1 1V2_0 3V4_1 8None 27V1_1",
    "4None 1V11_0 5V1_1 11None 4V4_0 1V6_1 1V7_0 5V5_1 1V4_1 1V1_1 9V4_0 5V5_1 1V1_1 1V6_3",
    "1V14_0 1V4_1 1V1_1 1V6_0 26V1_1 5V5_1 19V1_1 3V3_0 3V4_0 6V4_1 1V6_0 14V1_1 2V3_2 72V1_1",
    "2V3_0 5V1_1 1V3_0 15V1_1 1V3_0 30V1_1 2V4_0 10V1_1 5V3_0 1V4_0 14V3_0 1None 30V3_0 3V4_0",
    "27V3_0 2None 3V4_0 30V4_1 18V5_1 49V3_0 1V3_2 14None 59V5_0 2None 3V11_0 46V5_2 2None",
    "15V5_2 1None 28V6_0 2None 1V6_0 1None 11V10_0 5None 31V14_0 1None 2V14_0 5None 1V16_0",
    "8V14_0 1V6_1 1V7_0 11V6_1 6V7_0 2V8_0 1V14_0 8V9_0 10V13_0 11V14_0 1V11_0 15V9_0 1V8_0",
    "27V6_1 1V7_0 1V5_2 3V1_1 1V4_0 53V1_1 2V6_0 18V1_1 1V5_2 1V6_0 5V1_1 1V5_2 2V6_0 25V1_1",
    "2V5_1 5V6_0 1V7_0 2V5_2 2V5_0 1V4_1 2V5_0 1V7_0 3V1_1 1None 8V1_1 2None 2V1_1 2None 22V1_1",
    "1None 7V1_1 1None 1V1_1 3None 4V1_1 2None 1V1_1 1V4_0 7V1_1 2None 2V1_1 2None 3V1_1 1V4_1",
    "8None 1V1_1 4None 2V1_1 1None 5V1_1 2None 21V1_1 1V5_2 2V10_0 1V11_0 2None 1V4_0 1V1_1",
    "1V4_0 1None 6V1_1 4None 2V1_1 2None 22V1_1 1None 7V1_1 1None 2V1_1 1None 2V1_1 1None 2V1_1",
    "2None 1V1_1 1None 5V1_1 4None 2V1_1 2None 3V1_1 3None 1V5_1 7None 4V1_1 1None 1V1_1 7None",
    "15V1_1 1V5_1 1V11_0 10None 3V1_1 1None 7V1_1 1V4_0 1V1_1 1None 3V1_1 1None 22V1_1 1None",
    "7V1_1 1None 2V1_1 1None 5V1_1 2None 10V1_1 1None 3V1_1 1None 3V1_1 2None 1V1_1 15None 1V1_1",
    "3V4_0 2None 10V1_1 1V6_1 1V4_0 7None 1V8_0 6V10_0 1None 3V1_1 1None 8V1_1 2None 2V1_1 2None",
    "22V1_1 1None 7V1_1 1None 2V1_1 1None 1V4_0 4V1_1 2None 8V1_1 1V5_1 2None 2V1_1 2None 3V1_1",
    "7None 1V13_0 2V1_1 4None 2V1_1 1None 3V1_1 2V5_1 2None 11V1_1 1V4_0 6V6_0 10None 2V1_1",
    "1None 6V1_1 3None 3V1_1 1None 4V1_1 3None 2V1_1 1None 1V1_1 1None 2V1_1 3None 2V1_1 3None",
    "3V1_1 3None 8V1_1 1V4_1 3V1_1 4None 5V1_1 3None 3V1_1 1None 4V1_1 2None 1V5_1 6None 1V1_1",
    "14None 1V4_1 12V1_1 8V4_0 5None 1V7_0 3V1_1 1V11_0 8V1_1 1None 3V1_1 1None 23V1_1 1None",
    "10V1_1 1V7_0 5V1_1 2None 1V14_0 1V5_1 7V1_1 1None 3V1_1 1None 4V1_1 7None 2V1_1 1None 2V5_1",
    "1V8_0 2None 1V14_0 2None 2V1_1 2V5_1 2None 10V1_1 7None 1V12_0 8V5_1 1V9_0 1V7_0 2V1_1",
    "1V11_0 8V1_1 1None 3V1_1 1None 23V1_1 1None 10V1_1 1None 5V1_1 2None 2V4_0 7V1_1 1None",
    "3V1_1 1None 4V1_1 7None 2V1_1 6None 1V14_0 1V1_1 1None 2V1_1 2V5_0 2None 10V1_1 1None 2V5_0",
    "1V15_0 12None 1V10_0 1V7_0 2V1_1 1V13_0 8V1_1 1None 3V1_1 1None 23V1_1 1V6_0 16V1_1 1V6_0",
    "2V10_0 1V5_1 6V1_1 1V5_1 1None 3V1_1 1None 4V1_1 1V6_0 1V9_0 4None 3V9_0 1V1_1 7V9_0 1V8_0",
    "2V1_1 2V5_1 2None 10V1_1 6V5_1 3V9_0 7V5_1 1None 1V13_0 2V3_0 1None 18V3_0 3None 24V3_0",
    "1None 9V3_0 1None 1V3_0 2None 7V3_0 3None 1V3_0 4None 6V3_0 1None 1V3_0 1None 8V3_0 6None",
    "10V7_0 2None 3V3_0 12None 58V1_1 4None 29V1_1 37None 2V1_1 1None 1V1_1 1None 1V12_0 2V1_1",
    "1V12_0 1V1_1 1None 1V12_0 1V1_1 6V12_0 4V1_1 1V12_0 7V1_1 1V12_0 3V1_1 1None 1V1_1 1None",
    "1V1_1 2V12_0 2V1_1 1V12_0 13V1_1 1V12_0 3V1_1 2None 5V1_1 1None 1V1_1 1None 6V1_1 1V15_0",
    "1None 10V1_1 2None 2V1_1 2V6_1 32None 72V2_0 1None 33V2_0 1V3_0 2V5_1 4None 27V2_0 4V6_0",
    "6V2_0 1V3_0 1V2_0 1None 21V2_0 3V3_0 7V2_0 1V3_0 1V2_0 3V3_0 1None 15V3_0 1None 1V5_1 1V3_0",
    "2V4_1 3V5_1 4V5_2 2V6_0 37None 34V3_0 1V5_1 5V3_0 1V5_1 2V3_0 1V5_1 7V3_0 3V5_1 4V3_0 6V5_1",
    "26V3_0 64V5_1 4V5_2 2V5_1 38V1_1 1None 1V6_1 5None 1V6_1 2None 39V1_1 2V3_2 2V4_1 1V1_1",
    "1V4_1 3V6_1 90V1_1 5V5_2 68V1_1 5V5_2 82V1_1 6V5_2 7V3_0 1V4_1 63V3_0 1V4_1 1V3_0 1None",
    "4V3_0 2None 7V3_0 1None 1V3_0 1None 4V3_0 2None 39V3_0 1V4_1 1V3_0 1None 4V3_0 2None 31V3_0",
    "1V4_1 1V3_0 1None 4V3_0 2None 7V3_0 1None 1V3_0 1None 4V3_0 2None 7V3_0 1V4_1 7V3_0 1None",
    "23V3_0 1V4_1 31V3_0 1V4_1 1V3_0 1None 4V3_0 2None 7V3_0 1V4_1 39V3_0 1V4_1 19V3_0 2None",
    "2V6_0 2V4_1 28V3_0 3None 26V4_1 6None 85V3_0 1V8_0 2None 6V8_0 2None 1V5_2 630V3_0 9V5_2",
    "29V3_0 3None 81V3_0 8V7_0 7None 13V3_2 1V14_0 7V3_2 1V14_0 9None 1V14_0 23V3_2 9None 20V3_2",
    "12None 13V3_2 1None 3V3_2 1None 2V3_2 12None 93V3_0 1V4_0 2None 10V3_0 6None 10V4_0 6None",
    "15V3_0 1V14_0 10V3_0 6None 88V3_0 1V11_0 7None 42V3_0 1V5_1 5None 70V5_2 10None 29V4_0",
    "2V7_0 1None 12V4_0 4None 12V4_0 4None 1V4_0 3None 42V4_0 2None 5V4_0 11None 42V4_1 2V5_2",
    "4None 26V4_1 6None 10V4_1 1V5_2 3None 2V4_1 32V4_0 28V4_1 2None 2V4_1 63V5_2 1None 29V5_2",
    "2None 11V5_2 6None 10V5_2 6None 14V5_2 2None 15V7_0 2V13_0 14V14_0 49None 76V5_0 1V14_0",
    "1None 2V16_0 45V5_0 2V14_0 1V16_0 43V5_1 3V6_1 12V5_1 6V6_1 52V6_0 8None 4V6_0 56V5_1 3None",
    "15V5_1 3None 51V5_1 9V9_0 2V16_0 5None 43V11_0 2None 3V11_0 8V6_1 8None 35V5_2 4V6_1 1V10_0",
    "2V7_0 1V12_0 5None 108V4_0 88V4_1 7V5_0 28V5_1 15V7_0 4V10_0 1V14_0 1V9_0 1V6_0 1V5_2 2V5_0",
    "155V1_1 1V2_0 4V5_1 90V1_1 6V5_1 22V1_1 2None 6V1_1 2None 38V1_1 2None 6V1_1 2None 8V1_1",
    "1None 1V1_1 1None 1V1_1 1None 1V1_1 1None 31V1_1 2None 53V1_1 1None 15V1_1 1None 14V1_1",
    "2None 6V1_1 1None 19V1_1 2None 3V1_1 1None 9V1_1 1None 47V1_1 1V3_0 23V1_1 1V3_2 6V3_0",
    "5V3_2 2V4_0 2V4_1 1V3_2 7V4_1 5V3_2 1V5_1 1None 4V6_3 7V1_1 1V3_2 2None 27V1_1 1None 5V4_1",
    "8V6_0 3None 11V1_1 1V2_0 1V2_1 3V3_0 2V3_2 4V4_1 3V5_2 1V6_0 1V6_2 3V7_0 1V8_0 1V10_0",
    "1V14_0 15None 18V1_1 2V3_0 7V3_2 1V4_1 4V5_0 1V5_1 15None 57V1_1 2V3_0 1V4_0 1V4_1 15V3_2",
    "1V4_1 2V5_0 1V5_1 3V5_2 48V1_1 1V3_0 1V5_0 4V5_1 1V5_2 2V8_0 4None 91V1_1 9V3_0 12V3_2",
    "242V1_1 14V3_2 1V1_1 1V3_0 121V1_1 1V3_0 1V3_2 30V3_0 52V3_2 2V4_0 11V4_1 12V5_0 1V5_2",
    "11V6_0 7V7_0 4V9_0 1V10_0 37V1_1 2V3_0 3V16_0 22None 11V1_1 21None 139V1_1 20V3_2 1V4_0",
    "150V1_1 10V3_2 80V1_1 8V3_0 8V3_2 20V1_1 2V4_0 2V3_2 1V4_1 1V3_0 86V1_1 2V3_0 12V3_2 2V4_1",
    "10V3_2 8V4_0 11V4_1 1V5_1 2V5_2 2V4_0 16V4_1 1V5_0 10V5_1 3V5_2 4V5_1 10V5_2 1V6_0 19V5_2",
    "1V6_0 1V5_2 4V6_0 24V5_2 1V7_0 4V1_1 1V6_0 4V1_1 2V6_0 28V1_1 1V6_0 35V1_1 1V6_0 1V1_1",
    "1V6_0 4V1_1 3V6_0 1V1_1 1V5_2 7V1_1 2V6_0 7V1_1 14V3_2 31V1_1 3V6_0 24V1_1 1V6_0 14V1_1",
    "1V6_0 7V4_1 4V5_0 1V6_1 1V5_1 1V6_1 2V6_0 28V3_2 4V5_1 16V3_2 256V3_0 512V3_2 14V4_0 6V4_1",
    "7V5_0 5V5_1 4V5_0 41V5_1 3V7_0 5V5_1 5V5_2 26V7_0 2None 32V7_0 1None 1V13_0 34V7_0 3V11_0",
    "12V7_0 1V12_0 8V7_0 1V10_0 25V11_0 4V8_0 15V11_0 1V12_0 47V4_1 1V14_0 47V4_1 1V14_0 13V5_0",
    "3V5_1 1V5_2 3V5_1 4V5_0 6V5_1 2V5_2 107V4_1 7V5_2 2V6_1 5None 45V4_1 1None 1V6_1 5None",
    "1V6_1 2None 54V4_1 2V6_1 7None 1V4_1 1V6_0 14None 1V6_0 23V4_1 9None 7V4_1 1None 7V4_1",
    "1None 7V4_1 1None 7V4_1 1None 7V4_1 1None 7V4_1 1None 7V4_1 1None 7V4_1 1None 32V5_1 24V4_1",
    "4V5_1 2V4_1 19V5_1 1V5_2 10V6_1 7V7_0 2V9_0 5V10_0 5V11_0 1V12_0 3V13_0 11V14_0 34None",
    "26V3_0 1None 89V3_0 12None 214V3_0 26None 12V3_0 4V15_1 56V1_1 3V3_0 3V3_2 1V3_0 1V1_1",
    "1None 84V1_1 2V3_2 2None 6V1_1 2V3_2 94V1_1 1V3_2 5None 40V1_1 1V5_1 1V10_0 1V11_0 1None",
    "94V1_1 1None 16V1_1 24V3_0 3V6_0 5V13_0 16V4_1 20V5_1 2V16_0 9None 1V15_1 16V3_2 29V1_1",
    "2V4_0 1None 36V1_1 12V5_2 1V4_0 15V3_2 28V1_1 2V4_0 1V4_1 50V1_1 15V3_2 12V1_1 4V4_0 47V1_1",
    "1V12_1 119V1_1 4V4_0 99V1_1 2V4_0 31V1_1 1V4_0 6582V3_0 10V13_0 64V4_0 20902V1_1 22V4_1",
    "8V5_1 8V5_2 1V6_1 9V8_0 21V10_0 5V11_0 13V13_0 3V14_0 1165V3_0 3None 18V3_0 2V3_2 16V3_0",
    "1V3_2 12V3_0 1V3_2 3V3_0 1V3_2 1V3_0 9None 48V5_2 300V5_1 20None 32V5_1 2V6_0 18V5_1 8V6_1",
    "28V5_1 6V7_0 1V8_0 1V6_1 88V5_2 8None 23V4_1 4V5_0 5V5_1 2V5_0 107V5_1 2V6_0 1V8_0 2V6_0",
    "2V6_1 12V7_0 10V6_0 1V6_1 3V7_0 1V9_0 1V11_0 2V7_0 6V8_0 2V11_0 6V12_0 2V14_0 5V12_0 4V13_0",
    "3V16_0 2None 2V14_0 1None 1V14_0 1None 5V14_0 3V16_0 21None 3V14_0 2V13_0 1V7_0 2V6_1 1V6_0",
    "5V5_1 44V4_1 1V13_0 3None 10V5_2 6None 56V5_0 8None 69V5_1 1V9_0 8None 12V5_1 6None 28V5_2",
    "2V8_0 2V11_0 84V5_1 11None 1V5_1 29V5_2 3None 78V5_2 1None 11V5_2 4None 2V5_2 31V7_0 1None",
    "55V5_1 9None 14V5_1 2None 10V5_1 2None 4V5_1 28V5_2 4V7_0 67V5_2 24None 5V5_2 23V6_1 10None",
    "6V6_0 2None 6V6_0 2None 6V6_0 9None 7V6_0 1None 7V6_0 1None 48V7_0 4V8_0 2V7_0 2V12_0",
    "4V13_0 4None 80V8_0 46V5_2 2None 10V5_2 6None 11172V2_0 12None 23V5_2 4None 49V5_2 4None",
    "2048V2_0 6702V1_1 2V6_1 59V3_2 3V5_2 2None 106V4_1 38None 7V1_1 12None 5V1_1 5None 1V3_0",
    "25V1_1 1None 5V1_1 1None 1V1_1 1None 2V1_1 1None 2V1_1 1None 108V1_1 16V6_0 1V14_0 16None",
    "365V1_1 16V14_0 64V1_1 2None 54V1_1 7None 1V14_0 32V3_1 12V1_1 1V3_2 1V4_0 2V14_0 16V3_2",
    "10V4_1 6None 4V1_1 3V5_1 7V7_0 2V8_0 21V1_1 2V3_2 2V4_0 10V1_1 1None 19V1_1 1None 4V1_1",
    "4None 3V1_1 1V3_2 1V1_1 1None 135V1_1 2None 1V1_1 1None 94V1_1 2V3_2 94V1_1 3None 6V1_1",
    "2None 6V1_1 2None 6V1_1 2None 3V1_1 3None 7V1_1 1None 7V1_1 10None 3V3_0 1V2_1 3V1_1 12V4_0",
    "1None 26V4_0 1None 19V4_0 1None 2V4_0 1None 15V4_0 2None 14V4_0 34None 123V4_0 5None 3V4_0",
    "4None 45V4_0 3None 9V4_0 75V4_1 2V7_0 2V9_0 1None 12V5_1 1V13_0 3None 1V7_0 47None 46V5_1",
    "130None 29V5_1 3None 49V5_1 15None 28V7_0 4None 31V3_1 1V7_0 4V3_1 9None 3V10_0 27V3_1",
    "5None 43V7_0 5None 30V4_0 1None 1V4_0 36V4_1 4None 14V4_1 42None 38V3_1 2V4_0 38V3_1 80V4_0",
    "2None 10V4_0 6None 36V9_0 4None 36V9_0 4None 40V7_0 8None 52V7_0 11None 1V7_0 11V14_0 1None",
    "15V14_0 1None 7V14_0 1None 2V14_0 1None 11V14_0 1None 15V14_0 1None 7V14_0 1None 2V14_0",
    "3None 52V16_0 12None 311V7_0 9None 22V7_0 10None 8V7_0 24None 6V14_0 1None 42V14_0 1None",
    "9V14_0 69None 6V4_0 2None 1V4_0 1None 44V4_0 1None 2V4_0 3None 1V4_0 2None 1V4_0 22V5_2",
    "1None 9V5_2 63V7_0 8None 9V7_0 48None 19V8_0 1None 2V8_0 5None 5V8_0 26V5_0 2V5_2 3None",
    "1V5_0 26V5_1 5None 1V5_1 64None 56V6_1 4None 2V8_0 2V6_1 16V8_0 2None 46V8_0 4V4_1 1None",
    "2V4_1 5None 8V4_1 1None 3V4_1 1None 27V4_1 2V11_0 2None 3V4_1 4None 9V4_1 1V11_0 7None",
    "9V4_1 7None 32V5_2 32V7_0 32None 39V7_0 4None 12V7_0 9None 54V5_2 3None 29V5_2 2None 27V5_2",
    "5None 8V5_2 18V7_0 7None 4V7_0 12None 7V7_0 80None 73V5_2 55None 51V8_0 13None 51V8_0 7None",
    "6V8_0 40V11_0 8None 10V11_0 6None 38V16_0 3None 29V16_0 8None 2V16_0 208None 31V5_2 1None",
    "42V13_0 1None 3V13_0 2None 2V13_0 16None 3V16_0 55None 1V16_0 3V15_0 40V11_0 8None 42V11_0",
    "22None 26V14_0 38None 28V13_0 20None 23V12_0 9None 78V6_0 4None 30V6_0 6V14_0 9None 1V7_0",
    "66V5_2 1V14_0 10None 1V11_0 2None 25V6_1 7None 10V6_1 6None 53V6_1 1None 14V6_1 3V11_0",
    "1V13_0 8None 39V7_0 9None 73V6_1 4V8_0 1V7_0 2V13_0 10V6_1 1V7_0 5V8_0 1None 20V7_0 11None",
    "18V7_0 1None 43V7_0 1V9_0 3V15_0 62None 7V8_0 1None 1V8_0 1None 4V8_0 1None 15V8_0 1None",
    "11V8_0 6None 59V7_0 5None 10V7_0 6None 1V8_0 3V7_0 1None 8V7_0 2None 2V7_0 2None 22V7_0",
    "1None 7V7_0 1None 2V7_0 1None 5V7_0 1None 1V11_0 9V7_0 2None 2V7_0 2None 3V7_0 2None 1V8_0",
    "6None 1V7_0 5None 7V7_0 2None 7V7_0 3None 5V7_0 11None 10V16_0 1None 1V16_0 2None 1V16_0",
    "1None 38V16_0 1None 10V16_0 1None 1V16_0 2None 1V16_0 1None 4V16_0 1None 10V16_0 1None",
    "2V16_0 8None 2V16_0 29None 90V9_0 1V13_0 1V9_0 1None 1V9_0 1V11_0 1V12_0 2V13_0 30None",
    "72V7_0 8None 10V7_0 166None 54V7_0 2None 18V7_0 20V8_0 34None 69V7_0 11None 10V7_0 6None",
    "13V9_0 19None 56V6_1 1V12_0 1V14_0 6None 10V6_1 6None 20V16_0 28None 26V8_0 1V11_0 2None",
    "15V8_0 4None 16V8_0 7V14_0 185None 60V11_0 100None 83V7_0 12None 1V7_0 7V13_0 2None 1V13_0",
    "2None 8V13_0 1None 2V13_0 1None 30V13_0 1None 2V13_0 2None 12V13_0 9None 10V13_0 70None",
    "8V12_0 2None 46V12_0 2None 11V12_0 27None 72V10_0 8None 52V10_0 2V12_0 23V10_0 1V11_0",
    "5V10_0 13None 16V14_0 57V7_0 7None 10V15_0 182None 34V16_0 14None 10V16_0 6None 9V9_0 1None",
    "45V9_0 1None 14V9_0 10None 29V9_0 3None 32V9_0 2None 22V9_0 1None 14V9_0 73None 7V10_0",
    "1None 2V10_0 1None 44V10_0 3None 1V10_0 1None 2V10_0 1None 9V10_0 8None 10V10_0 6None",
    "6V11_0 1None 2V11_0 1None 37V11_0 1None 2V11_0 1None 6V11_0 7None 10V11_0 310None 25V11_0",
    "7None 17V15_0 1None 41V15_0 3None 28V15_0 1V16_0 85None 1V13_0 15None 50V12_0 13None 1V12_0",
    "879V5_0 42V7_0 1V8_0 102None 99V5_0 12V7_0 1None 4V5_0 1V7_0 11None 196V8_0 2636None",
    "99V14_0 13None 1071V5_2 1V15_0 9V12_0 29V15_0 10None 3995V16_0 5None 583V8_0 6841None",
    "58V16_0 1734None 569V6_0 7None 31V7_0 1None 10V7_0 4None 2V7_0 79V14_0 1None 10V14_0 6None",
    "30V7_0 2None 6V7_0 10None 70V7_0 10None 10V7_0 1None 7V7_0 1None 21V7_0 5None 19V7_0",
    "432None 58V16_0 198None 91V11_0 101None 69V6_1 6V12_0 4None 1V12_0 47V6_1 9V12_0 7None",
    "17V6_1 64None 1V9_0 1V10_0 2V12_0 1V13_0 11None 2V13_0 14None 6125V9_0 5V11_0 6V12_0 8None",
    "755V9_0 483V13_0 41None 1V16_0 9V13_0 8935None 4V14_0 1None 7V14_0 1None 2V14_0 1None 2V6_0",
    "285V10_0 4V14_0 15None 1V15_0 29None 3V12_0 2None 1V15_0 14None 4V12_0 8None 396V10_0",
    "2308None 107V7_0 5None 13V7_0 3None 9V7_0 7None 10V7_0 2None 8V7_0 3932None 250V16_0 6None",
    "436V16_0 76None 46V14_0 2None 23V14_0 9None 116V14_0 60None 246V3_1 10None 39V3_1 2None",
    "1V5_1 180V3_1 11V8_0 2V14_0 21None 70V4_1 122None 20V15_0 12None 20V11_0 12None 87V4_0",
    "9None 18V5_0 7V11_0 135None 85V3_1 1None 71V3_1 1None 2V3_1 2None 1V3_1 2None 2V3_1 2None",
    "4V3_1 1None 12V3_1 1None 1V3_1 1None 4V3_1 1V4_0 2V3_1 1None 65V3_1 1None 4V3_1 2None 8V3_1",
    "1None 7V3_1 1None 28V3_1 1None 4V3_1 1None 5V3_1 1None 1V3_1 3None 7V3_1 1None 338V3_1",
    "2V4_1 2None 290V3_1 2V5_0 2None 50V3_1 652V8_0 15None 5V8_0 1None 15V8_0 1104None 31V14_0",
    "6None 6V15_0 213None 7V9_0 1None 17V9_0 2None 7V9_0 1None 2V9_0 1None 5V9_0 5None 62V15_0",
    "33None 1V15_0 112None 45V12_0 3None 14V12_0 2None 10V12_0 4None 2V12_0 320None 31V14_0",
    "17None 58V12_0 5None 1V12_0 464None 42V15_0 214None 43V16_0 4None 1V16_0 480None 7V14_0",
    "1None 4V14_0 1None 2V14_0 1None 15V14_0 1None 197V7_0 2None 16V7_0 41None 75V9_0 1V12_0",
    "4None 10V9_0 4None 2V9_0 785None 68V11_0 76None 61V12_0 194None 4V6_1 1None 27V6_1 1None",
    "2V6_1 1None 1V6_1 2None 1V6_1 1None 10V6_1 1None 4V6_1 1None 1V6_1 1None 1V6_1 6None 1V6_1",
    "4None 1V6_1 1None 1V6_1 1None 1V6_1 1None 3V6_1 1None 2V6_1 1None 1V6_1 2None 1V6_1 1None",
    "1V6_1 1None 1V6_1 1None 1V6_1 1None 1V6_1 1None 2V6_1 1None 1V6_1 2None 4V6_1 1None 7V6_1",
    "1None 4V6_1 1None 4V6_1 1None 1V6_1 1None 10V6_1 1None 17V6_1 5None 3V6_1 1None 5V6_1 1None",
    "17V6_1 52None 2V6_1 270None 44V5_1 4None 100V5_1 12None 15V6_0 2None 14V6_0 1V7_0 1None",
    "15V6_0 1None 15V6_0 22V7_0 10None 11V5_2 2V7_0 3V13_0 31V5_2 1V11_0 1V6_0 1V5_2 11V6_0",
    "1V5_2 1V6_0 1V5_2 2V6_0 1V5_2 3V6_0 1V5_2 3V6_0 5V5_2 8V6_0 1V5_2 7V6_0 1V5_2 10V6_0 2V6_1",
    "1V12_0 3V13_0 9V6_0 1V5_2 1V6_0 2V5_2 2V6_0 1V5_2 10V6_0 4V5_2 2V6_0 1V5_2 10V6_0 18V9_0",
    "1V13_0 56None 26V6_0 1V5_2 2V6_0 13None 34V5_2 9V6_0 1V9_0 4None 9V5_2 7None 2V6_0 14None",
    "6V10_0 154None 33V6_0 12V7_0 3V8_0 6V6_0 1V7_0 70V6_0 1V7_0 2V8_0 20V6_0 12V7_0 37V6_0",
    "1V7_0 5V6_0 4V7_0 5V8_0 12V7_0 17V6_0 7V7_0 8V8_0 63V6_0 1V7_0 1V6_0 1V7_0 182V6_0 1V7_0",
    "4V6_0 2V7_0 1V8_0 62V6_0 2V7_0 4V6_1 7V7_0 5V8_0 24V6_0 18V7_0 1V9_0 41V7_0 1V9_0 86V7_0",
    "5V6_0 1V6_1 16V6_0 1V6_1 3V6_0 1V6_1 1V6_0 1V6_1 1V6_0 1V6_1 1V6_0 1V6_1 3V6_0 1V6_1 6V6_0",
    "2V6_1 4V6_0 1V6_1 1V6_0 2V6_1 4V6_0 1V6_1 12V6_0 2V7_0 2V8_0 11V6_0 48V7_0 70V6_0 10V7_0",
    "1V8_0 2V9_0 2V10_0 1V12_0 2V13_0 4None 1V15_0 3V14_0 13V7_0 3None 4V7_0 3V9_0 2V10_0 1V11_0",
    "1V12_0 2V13_0 3None 116V6_0 3V15_0 4None 5V15_0 85V7_0 4V11_0 1V15_0 6None 12V12_0 4None",
    "1V14_0 15None 12V7_0 4None 56V7_0 8None 10V7_0 6None 40V7_0 8None 30V7_0 2None 2V13_0",
    "10V16_0 4None 2V16_0 62None 12V10_0 1V13_0 3V12_0 9V8_0 6V9_0 1V10_0 8V9_0 8V10_0 1V9_0",
    "2V10_0 12V9_0 1V12_0 12V9_0 1V10_0 3V11_0 15V9_0 13V10_0 5V11_0 1V12_0 1V13_0 4V11_0 2V13_0",
    "1V14_0 1V11_0 1V12_0 4V11_0 5V8_0 13V9_0 6V10_0 11V11_0 2V13_0 6V12_0 3V13_0 2V12_0 10V11_0",
    "6V12_0 1V8_0 2V11_0 8V12_0 1V13_0 1V14_0 3V12_0 23V10_0 25V11_0 84V12_0 12None 14V11_0",
    "2None 4V12_0 1V13_0 3V15_0 3V12_0 2V14_0 3None 3V12_0 4V13_0 2V15_0 1V16_0 5None 1V16_0",
    "6V12_0 19V13_0 4V14_0 3V15_0 7V13_0 4V14_0 3V15_0 1V16_0 1V15_0 3V13_0 3V14_0 1V16_0 7None",
    "2V15_0 7V13_0 3V14_0 2V15_0 1V16_0 2None 1V16_0 8V14_0 1V15_0 1V16_0 6None 7V14_0 2V15_0",
    "7None 147V13_0 1None 55V13_0 37V16_0 10V13_0 1028None 2V2_0 42711V3_1 7V13_0 2V14_0 32None",
    "4149V5_2 4V14_0 1V15_0 6None 222V6_0 2None 5762V8_0 14None 7473V10_0 15None 622V15_1",
    "2466None 542V3_1 1504None 2V2_0 4939V13_0 5None 4192V15_0 56398None 2V2_0 65534None 2V2_0",
    "65534None 2V2_0 65534None 2V2_0 65534None 2V2_0 65534None 2V2_0 65534None 2V2_0 65534None",
    "2V2_0 65534None 2V2_0 65534None 2V2_0 65534None 2V2_0 1None 1V3_1 30None 96V3_1 128None",
    "240V4_0 65038None 131074V2_0"]

/-- The versions up to the given one. -/
def upTo (version : String) : List String :=
  (names.map Prod.fst).takeWhile (· != version) ++ [version]

def set (version : String) : CharSet := Runs.select (upTo version).contains runs

end Age

/-! ## A later version -/

namespace Recent

def graphic : CharSet := Runs.gaps
    ["1ov 0 r0 0 3j 0 3xg 0 250 0 ojb 1 2 0 1 0 s 0 gk1 f cd 1 1i 6 29d p 12j 2 8 8 2h4 0 3 0 1 0",
    "g8 17 4 9 fxy o 2 o 7y 4 4qp 7 zt l 2p 36 cg7 2 cd m f g 4pb u 1 2 1 1 1 6 2 4 9 1 34o 0 4e",
    "3 9h 8 aj 3 1e 0 3 0 1l 0 4 0 s 0 4 0 7e 0 10zj 5 4ma b gsi 3bd"]

def alphabetic : CharSet := Runs.gaps
    ["1ov 0 r0 0 3j 0 ult 1 2 0 1 0 s 0 j7y p 12j 2 1e 1 2g4 7 g8 17 fyc o 2 o 7y 4 4qp 7 zt l 2p",
    "36 hjh u 1 l 8 1 154q 5 4ma b gsi 3bd"]

def numeric : CharSet := Runs.gaps
    ["1kgw 9 g7e 2"]

end Recent
end SurveyIntake
